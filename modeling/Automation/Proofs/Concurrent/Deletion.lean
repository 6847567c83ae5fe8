import Automation.Proofs.Concurrent.Update
import Automation.Proofs.Trigger.Accounting
import Mathlib.Data.List.Perm.Subperm

/-!
# Deletions side by side with other calls

Callers create, update and delete workflows at the same time, and their steps on the repository come
in any order.  An identifier goes through three stages: a creation that has not begun *awaits* it, a
stored workflow has it, and in the end a deletion has *removed* it.  A step moves one identifier on
by a stage, or drops one, or moves none (`Caller.Proceeds`).

So if the identifiers that are awaited, stored and removed differ from each other at the beginning,
they do so after any steps (`Callers.Orderly`).  Hence what was removed is not stored, no creation
is left that could bring it back, and no other deletion has removed it.  An update that holds what
it read before can only find that the workflow is gone, since a replacement stores no identifier
that was not stored (`deleted_for_good`).
-/

namespace Automation

/-! ## Stored identifiers -/

namespace Repository

/-- The identifiers of the stored workflows. -/
def ids (r : Repository) : List String := r.definitions.map (·.id)

theorem ids_insert (r : Repository) (d : Definition) : (r.insert d).ids = r.ids ++ [d.id] := by
  simp [ids, insert]

theorem ids_erase (r : Repository) (id : String) :
    (r.erase id).ids = r.ids.filter (· != id) := by
  simp [ids, erase, List.filter_map, Function.comp_def]

/-- A replacement finds its workflow stored, and stores no other identifier. -/
theorem ids_of_replace? {r r' : Repository} {d kept : Definition}
    (h : r.replace? d = some (.ok (kept, r'))) : r'.ids = r.ids := by
  rw [replace?] at h
  obtain ⟨old, hfound, hresult⟩ := Option.map_eq_some_iff.1 h
  obtain ⟨_, hkept, hr⟩ := bind_eq_ok_iff.1 hresult
  cases hr
  have hid := id_of_replacement (mem_of_get? hfound).2.symm hkept
  simp only [ids, List.map_map]
  refine List.map_congr_left fun e _ => ?_
  by_cases hsame : e.id = d.id
  · simp [hsame, hid]
  · simp [hsame]

/-- What was removed and what is left were stored. -/
theorem subperm_ids_erase {r : Repository} {id : String} (h : (r.get? id).isSome = true) :
    ((r.erase id).ids ++ [id]).Subperm r.ids := by
  have hstored : id ∈ r.ids := by
    by_contra hnone
    rw [get?_eq_none_iff.2 hnone] at h
    cases h
  have hsplit : (r.ids.filter (· != id) ++ r.ids.filter fun x => !(x != id)).Perm r.ids :=
    List.filter_append_perm _ _
  have hremoved : [id].Sublist (r.ids.filter fun x => !(x != id)) := by simp [hstored]
  rw [ids_erase]
  exact ((List.Sublist.refl _).append hremoved).subperm.trans hsplit.subperm

end Repository

/-! ## Steps of a caller -/

namespace StoreCall

/-- The identifier that a creation awaits which has not begun. -/
def awaited? (call : StoreCall) : Caller → Option String
  | .waiting _ => call.issued?
  | _ => none

/-- The identifier that a deletion has removed. -/
def removed? : StoreCall → Caller → Option String
  | .delete id, .answered (.ok _) => some id
  | _, _ => none

/-- The identifiers of a call and the stored ones, by their stages. -/
def lives (call : StoreCall) (c : Caller) (r : Repository) : List String :=
  (call.awaited? c).toList ++ r.ids ++ (call.removed? c).toList

/-- A creation that succeeds stores a workflow under the identifier that it was given. -/
theorem insert_of_perform {call : StoreCall} {r r' : Repository} {id : String}
    {born : Option Definition} (hissued : call.issued? = some id)
    (h : call.perform r = .ok (born, r')) :
    ∃ kept, born = some kept ∧ kept.id = id ∧ r' = r.insert kept := by
  have hcreated : ∀ {now draft kept r'}, Store.create r id now draft = .ok (kept, r') →
      kept.id = id ∧ r' = r.insert kept := by
    intro now draft kept r' hcreate
    obtain ⟨hchange, hid⟩ := change_of_create hcreate
    cases hchange with
    | added => exact ⟨hid, rfl⟩
  cases call with
  | create id' now draft =>
    cases hissued
    simp only [perform, map_eq_ok_iff, mapError_eq_ok_iff] at h
    obtain ⟨⟨kept, _⟩, hcreate, heq⟩ := h
    cases heq
    exact ⟨kept, rfl, hcreated hcreate⟩
  | createFromStarter id' now starter name choices =>
    cases hissued
    simp only [perform, bind_eq_ok_iff, map_eq_ok_iff, mapError_eq_ok_iff] at h
    obtain ⟨_, -, ⟨kept, _⟩, hcreate, heq⟩ := h
    cases heq
    exact ⟨kept, rfl, hcreated hcreate⟩
  | update => cases hissued
  | delete => cases hissued

end StoreCall

/-- How far a caller can be with its call. -/
inductive Caller.Serves : StoreCall → Caller → Prop where
  | waiting (call : StoreCall) : Serves call (.waiting call)
  | holding {id : String} {now : Timestamp} {patch : Patch} {merged : Definition}
      (names : merged.id = id) : Serves (.update id now patch) (.holding merged)
  | answered (call : StoreCall) (result : Except Failure (Option Definition)) :
      Serves call (.answered result)

/-- The answer to a call for a workflow that is not stored. -/
def Caller.missing (id : String) : Caller :=
  .answered (.error (.engine (.notFound (.text "Workflow") (.text id))))

/-- What a step of a caller does. -/
structure Caller.Proceeds (call : StoreCall) (c : Caller) (r : Repository)
    (next : Caller × Repository) : Prop where
  serves : next.1.Serves call
  /-- Identifiers are moved on or dropped. -/
  lives : (call.lives next.1 next.2).Subperm (call.lives c r)
  answered : ∀ result, c = .answered result → next.1 = c
  /-- An update changes no identifier. -/
  update : ∀ id now patch, call = .update id now patch → next.2.ids = r.ids
  /-- An update of a workflow that is not stored finds out. -/
  missing : ∀ id now patch, call = .update id now patch → id ∉ r.ids →
    (∀ result, c ≠ .answered result) → next.1 = missing id

namespace Store

/-- A change keeps the identifier. -/
theorem id_of_merge? {r : Repository} {id : String} {now : Timestamp} {p : Patch} {d : Definition}
    (h : merge? r id now p = .ok d) : d.id = id := by
  simp only [merge?_eq, bind_eq_ok_iff, get_eq_ok_iff, mapError_eq_ok_iff, Patch.apply,
    pure_eq_ok_iff] at h
  obtain ⟨old, hfound, _, -, _, -, _, -, _, -, _, -, _, -, rfl⟩ := h
  exact (Repository.mem_of_get? hfound).2

theorem merge?_of_missing {r : Repository} {id : String} (h : id ∉ r.ids) (now : Timestamp)
    (p : Patch) : merge? r id now p = .error (.unknown id) := by
  simp [merge?, get, Repository.get?_eq_none_iff.2 h]

theorem put_of_missing {r : Repository} {d : Definition} (h : d.id ∉ r.ids) :
    put r d = .error (.unknown d.id) := by
  simp [put, Repository.replace?, Repository.get?_eq_none_iff.2 h]

theorem ids_of_put {r r' : Repository} {d kept : Definition} (h : put r d = .ok (kept, r')) :
    r'.ids = r.ids := by
  rw [put] at h
  split at h
  · cases h
    exact Repository.ids_of_replace? ‹_›
  · cases h
  · cases h

end Store

namespace Caller

variable {r : Repository} {call : StoreCall}

theorem waiting_ne (call : StoreCall) (result : Except Failure (Option Definition)) :
    waiting call ≠ answered result := by
  intro h
  cases h

theorem holding_ne (merged : Definition) (result : Except Failure (Option Definition)) :
    holding merged ≠ answered result := by
  intro h
  cases h

theorem delete_ne (id id' : String) (now : Timestamp) (patch : Patch) :
    StoreCall.delete id ≠ .update id' now patch := by
  intro h
  cases h

/-- A call that is answered with a failure at once. -/
theorem proceeds_refused (f : Failure) (hother : ∀ id now patch, call ≠ .update id now patch) :
    Proceeds call (.waiting call) r (.answered (.error f), r) where
  serves := .answered call _
  lives := by
    have hremoved : call.removed? (.answered (.error f)) = none := by cases call <;> rfl
    have hbefore : call.removed? (.waiting call) = none := by cases call <;> rfl
    simp only [StoreCall.lives, hremoved, hbefore, List.append_assoc]
    exact ((List.nil_sublist _).append_right _).subperm
  answered _ h := by cases h
  update id now patch h := absurd h (hother id now patch)
  missing id now patch h := absurd h (hother id now patch)

/-- A creation that stores a workflow under the identifier that it awaited. -/
theorem proceeds_created {kept : Definition} (hissued : call.issued? = some kept.id) :
    Proceeds call (.waiting call) r (.answered (.ok (some kept)), r.insert kept) := by
  have hother : ∀ id now patch, call ≠ .update id now patch := by
    rintro id now patch rfl
    cases hissued
  have hremoved : ∀ c, call.removed? c = none := by
    intro c
    cases call <;> first | rfl | cases hissued
  refine ⟨.answered call _, ?_, fun result h => absurd h (waiting_ne call result),
    fun id now patch h => absurd h (hother id now patch),
    fun id now patch h => absurd h (hother id now patch)⟩
  have hperm : (r.ids ++ [kept.id]).Perm ([kept.id] ++ r.ids) := List.perm_append_comm
  simpa [StoreCall.lives, StoreCall.awaited?, hissued, hremoved, r.ids_insert] using hperm.subperm

/-- A call that takes one step is answered with what it comes to. -/
theorem step_waiting (call : StoreCall) (r : Repository)
    (hother : ∀ id now patch, call ≠ .update id now patch) :
    (∃ f, call.perform r = .error f ∧ step r (.waiting call) = (.answered (.error f), r)) ∨
      ∃ born r', call.perform r = .ok (born, r') ∧
        step r (.waiting call) = (.answered (.ok born), r') := by
  cases hperform : call.perform r with
  | error f =>
    refine .inl ⟨f, rfl, ?_⟩
    cases call with
    | update id now patch => exact absurd rfl (hother id now patch)
    | _ => simp only [step, hperform]
  | ok result =>
    refine .inr ⟨result.1, result.2, rfl, ?_⟩
    cases call with
    | update id now patch => exact absurd rfl (hother id now patch)
    | _ => simp only [step, hperform]

theorem proceeds_create {id : String} (hissued : call.issued? = some id) :
    Proceeds call (.waiting call) r (step r (.waiting call)) := by
  have hother : ∀ id now patch, call ≠ .update id now patch := by
    rintro id now patch rfl
    cases hissued
  rcases step_waiting call r hother with ⟨f, -, hstep⟩ | ⟨born, r', hperform, hstep⟩
  · rw [hstep]
    exact proceeds_refused f hother
  · obtain ⟨kept, rfl, rfl, rfl⟩ := StoreCall.insert_of_perform hissued hperform
    rw [hstep]
    exact proceeds_created hissued

theorem proceeds_delete {id : String} :
    Proceeds (.delete id) (.waiting (.delete id)) r (step r (.waiting (.delete id))) := by
  rcases step_waiting (.delete id) r (delete_ne id) with ⟨f, -, hstep⟩ | ⟨born, r', hperform, hstep⟩
  · rw [hstep]
    exact proceeds_refused f (delete_ne id)
  · simp only [StoreCall.perform, map_eq_ok_iff, mapError_eq_ok_iff] at hperform
    obtain ⟨r'', hdelete, heq⟩ := hperform
    cases heq
    obtain ⟨hstored, rfl⟩ := Store.delete_eq_ok_iff.1 hdelete
    rw [hstep]
    refine ⟨.answered _ _, ?_, fun result h => absurd h (waiting_ne _ result),
      fun id' now patch h => absurd h (delete_ne id id' now patch),
      fun id' now patch h => absurd h (delete_ne id id' now patch)⟩
    simpa [StoreCall.lives, StoreCall.awaited?, StoreCall.issued?, StoreCall.removed?] using
      Repository.subperm_ids_erase hstored

theorem lives_update {id : String} {now : Timestamp} {patch : Patch} (c : Caller)
    (r : Repository) : (StoreCall.update id now patch).lives c r = r.ids := by
  cases c <;> simp [StoreCall.lives, StoreCall.awaited?, StoreCall.issued?, StoreCall.removed?]

/-- A step of an update that leaves the identifiers as they are. -/
theorem proceeds_of_ids_eq {id : String} {now : Timestamp} {patch : Patch} {c c' : Caller}
    {r' : Repository} (hserves : c'.Serves (.update id now patch)) (hids : r'.ids = r.ids)
    (hopen : ∀ result, c ≠ .answered result) (hmissing : id ∉ r.ids → c' = missing id) :
    Proceeds (.update id now patch) c r (c', r') where
  serves := hserves
  lives := by rw [lives_update, lives_update, hids]
  answered result h := absurd h (hopen result)
  update _ _ _ _ := hids
  missing := by
    rintro _ _ _ ⟨⟩ hnone -
    exact hmissing hnone

theorem proceeds_read {id : String} {now : Timestamp} {patch : Patch} :
    Proceeds (.update id now patch) (.waiting (.update id now patch)) r
      (step r (.waiting (.update id now patch))) := by
  cases hmerge : Store.merge? r id now patch with
  | error e =>
    simp only [step, hmerge]
    refine proceeds_of_ids_eq (.answered _ _) rfl (waiting_ne _) fun hnone => ?_
    cases hmerge.symm.trans (Store.merge?_of_missing hnone now patch)
    rfl
  | ok merged =>
    simp only [step, hmerge]
    refine proceeds_of_ids_eq (.holding (Store.id_of_merge? hmerge)) rfl (waiting_ne _)
      fun hnone => ?_
    cases hmerge.symm.trans (Store.merge?_of_missing hnone now patch)

theorem proceeds_put {now : Timestamp} {patch : Patch} {merged : Definition} :
    Proceeds (.update merged.id now patch) (.holding merged) r (step r (.holding merged)) := by
  cases hput : Store.put r merged with
  | error e =>
    simp only [step, hput]
    refine proceeds_of_ids_eq (.answered _ _) rfl (holding_ne _) fun hnone => ?_
    cases hput.symm.trans (Store.put_of_missing hnone)
    rfl
  | ok result =>
    simp only [step, hput]
    refine proceeds_of_ids_eq (.answered _ _) (Store.ids_of_put hput) (holding_ne _)
      fun hnone => ?_
    cases hput.symm.trans (Store.put_of_missing hnone)

/-- What a step of a caller does. -/
theorem proceeds_step {c : Caller} (h : c.Serves call) : c.Proceeds call r (c.step r) := by
  cases h with
  | waiting =>
    cases call with
    | create => exact proceeds_create rfl
    | createFromStarter => exact proceeds_create rfl
    | update => exact proceeds_read
    | delete => exact proceeds_delete
  | holding names =>
    subst names
    exact proceeds_put
  | answered _ result =>
    exact ⟨.answered call result, .refl _, fun _ _ => rfl, fun _ _ _ _ => rfl,
      fun _ _ _ _ _ hopen => absurd rfl (hopen result)⟩

end Caller

/-! ## Callers side by side -/

/-- A member of a list that is told by a function differs in that from the other members. -/
theorem eq_of_nodup_filterMap {α β : Type} {f : α → Option β} {xs : List α}
    (h : (xs.filterMap f).Nodup) {i j : Nat} {x y : α} {b : β} (hi : xs[i]? = some x)
    (hj : xs[j]? = some y) (hx : f x = some b) (hy : f y = some b) : i = j := by
  have hne : ∀ {i j : Nat} {x y : α}, xs[i]? = some x → xs[j]? = some y → f x = some b →
      f y = some b → ¬ i < j := by
    intro i j x y hi hj hx hy hlt
    obtain ⟨hi', rfl⟩ := List.getElem?_eq_some_iff.1 hi
    obtain ⟨hj', rfl⟩ := List.getElem?_eq_some_iff.1 hj
    exact List.pairwise_iff_getElem.1 (List.pairwise_filterMap.1 h) i j hi' hj' hlt b hx b hy rfl
  exact Nat.le_antisymm (Nat.le_of_not_lt (hne hj hi hy hx)) (Nat.le_of_not_lt (hne hi hj hx hy))

namespace Callers

/-- Callers of a repository that have not begun their calls. -/
def opening (r : Repository) (calls : List StoreCall) : Callers := ⟨r, calls.map .waiting⟩

/-- The callers with their calls. -/
def served (s : Callers) (calls : List StoreCall) : List (StoreCall × Caller) :=
  calls.zip s.callers

/-- All identifiers, by their stages. -/
def lives (s : Callers) (calls : List StoreCall) : List String :=
  (s.served calls).filterMap (fun e => e.1.awaited? e.2) ++ s.repository.ids ++
    (s.served calls).filterMap fun e => e.1.removed? e.2

/-- Callers each of which is somewhere on the way of its call, while no identifier is at two
stages. -/
structure Orderly (s : Callers) (calls : List StoreCall) : Prop where
  length : s.callers.length = calls.length
  serves : ∀ e ∈ s.served calls, e.2.Serves e.1
  nodup : (s.lives calls).Nodup

/-- A caller is answered. -/
def Answered (s : Callers) (i : Nat) : Prop :=
  ∃ result, s.callers[i]? = some (.answered result)

/-- A caller is answered that its call was carried out. -/
def Succeeded (s : Callers) (i : Nat) : Prop :=
  ∃ born, s.callers[i]? = some (.answered (.ok born))

variable {s : Callers} {calls : List StoreCall}

/-- The identifiers of one call, and those of the others. -/
theorem lives_perm {es rest : List (StoreCall × Caller)} {call : StoreCall} {c : Caller}
    (h : es.Perm ((call, c) :: rest)) (r : Repository) :
    (es.filterMap (fun e => e.1.awaited? e.2) ++ r.ids ++
      es.filterMap fun e => e.1.removed? e.2).Perm
    (call.lives c r ++ (rest.filterMap (fun e => e.1.awaited? e.2) ++
      rest.filterMap fun e => e.1.removed? e.2)) := by
  have hcons : ∀ f : StoreCall × Caller → Option String,
      (es.filterMap f).Perm ((f (call, c)).toList ++ rest.filterMap f) := by
    intro f
    refine (h.filterMap f).trans (.of_eq ?_)
    cases hf : f (call, c) with
    | none => simp [hf]
    | some id => simp [hf]
  rw [List.perm_iff_count]
  intro id
  have hawaited := (hcons fun e => e.1.awaited? e.2).count_eq id
  have hremoved := (hcons fun e => e.1.removed? e.2).count_eq id
  simp only [StoreCall.lives, List.count_append] at hawaited hremoved ⊢
  omega

theorem served_set {i : Nat} {call : StoreCall} (hcall : calls[i]? = some call) (c : Caller) :
    calls.zip (s.callers.set i c) = (s.served calls).set i (call, c) := by
  obtain ⟨hi, rfl⟩ := List.getElem?_eq_some_iff.1 hcall
  refine List.ext_getElem (by simp [served]) fun j hj _ => ?_
  rw [List.getElem_zip, List.getElem_set, List.getElem_set]
  by_cases hsame : i = j
  · subst hsame
    simp
  · simp [served, hsame]

theorem getElem?_served {i : Nat} {call : StoreCall} {c : Caller} :
    (s.served calls)[i]? = some (call, c) ↔ calls[i]? = some call ∧ s.callers[i]? = some c :=
  List.getElem?_zip_eq_some

/-- There is no caller of the number, or it makes a step. -/
theorem turn_cases (h : s.Orderly calls) (i : Nat) :
    s.callers[i]? = none ∧ s.turn i = s ∨ ∃ call c, (s.served calls)[i]? = some (call, c) ∧
      c.Proceeds call s.repository (c.step s.repository) ∧
      s.turn i = ⟨(c.step s.repository).2, s.callers.set i (c.step s.repository).1⟩ := by
  cases hc : s.callers[i]? with
  | none =>
    exact .inl ⟨rfl, by simp only [turn, hc]⟩
  | some c =>
    right
    obtain ⟨hi, -⟩ := List.getElem?_eq_some_iff.1 hc
    rw [h.length] at hi
    have hserved := getElem?_served.2 ⟨List.getElem?_eq_getElem hi, hc⟩
    have hserves := h.serves _ (List.mem_of_getElem? hserved)
    exact ⟨calls[i], c, hserved, Caller.proceeds_step hserves, by simp only [turn, hc]⟩

/-- A step keeps the callers in order. -/
theorem Orderly.turn (h : s.Orderly calls) (i : Nat) : (s.turn i).Orderly calls := by
  rcases turn_cases h i with ⟨-, hsame⟩ | ⟨call, c, hserved, hproceeds, hturn⟩
  · rwa [hsame]
  obtain ⟨hcall, hc⟩ := getElem?_served.1 hserved
  rw [hturn]
  refine ⟨by simpa using h.length, ?_, ?_⟩
  · intro e he
    rw [served, served_set hcall] at he
    rcases List.mem_or_eq_of_mem_set he with he | rfl
    · exact h.serves e he
    · exact hproceeds.serves
  · have hbefore := lives_perm (perm_cons_eraseIdx hserved) s.repository
    have hafter := lives_perm (set_perm_cons_eraseIdx hserved (call, (c.step s.repository).1))
      (c.step s.repository).2
    rw [← served_set hcall] at hafter
    obtain ⟨kept, hperm, hsub⟩ := (List.subperm_append_right _).2 hproceeds.lives
    rw [lives, served, hafter.nodup_iff, ← hperm.nodup_iff]
    exact (hbefore.nodup_iff.1 h.nodup).sublist hsub

theorem Orderly.run (h : s.Orderly calls) (schedule : List Nat) :
    (s.run schedule).Orderly calls := by
  induction schedule generalizing s with
  | nil => exact h
  | cons i schedule ih => exact ih (h.turn i)

theorem orderly_opening {r : Repository} (hr : r.Sound)
    (fresh : (calls.filterMap StoreCall.issued?).Nodup)
    (unused : ∀ id ∈ calls.filterMap StoreCall.issued?, r.get? id = none) :
    (opening r calls).Orderly calls := by
  have hserved : (opening r calls).served calls = calls.map fun call => (call, .waiting call) :=
    List.ext_getElem (by simp [served, opening]) fun i _ _ => by simp [served, opening]
  have hremoved : ∀ call : StoreCall, call.removed? (.waiting call) = none := by
    intro call
    cases call <;> rfl
  refine ⟨by simp [opening], ?_, ?_⟩
  · intro e he
    rw [hserved] at he
    obtain ⟨call, -, rfl⟩ := List.mem_map.1 he
    exact .waiting call
  · have hlives : (opening r calls).lives calls = calls.filterMap StoreCall.issued? ++ r.ids := by
      rw [lives, hserved]
      simp [List.filterMap_map, StoreCall.awaited?, hremoved, opening]
    rw [hlives, List.nodup_append']
    exact ⟨fresh, hr.nodup, fun id hid => Repository.get?_eq_none_iff.1 (unused id hid)⟩

/-! ## What becomes of a workflow that was removed -/

/-- Callers that are answered stay so. -/
theorem Orderly.answered_turn (h : s.Orderly calls) (i : Nat) {j : Nat}
    {result : Except Failure (Option Definition)}
    (hj : s.callers[j]? = some (.answered result)) :
    (s.turn i).callers[j]? = some (.answered result) := by
  rcases turn_cases h i with ⟨-, hsame⟩ | ⟨call, c, hserved, hproceeds, hturn⟩
  · rwa [hsame]
  · rw [hturn, List.getElem?_set]
    split
    · subst i
      obtain ⟨-, hc⟩ := getElem?_served.1 hserved
      obtain rfl := Option.some.inj (hc.symm.trans hj)
      rw [if_pos (List.getElem?_eq_some_iff.1 hc).1, hproceeds.answered result rfl]
    · exact hj

theorem Orderly.answered_run (h : s.Orderly calls) (schedule : List Nat) {j : Nat}
    {result : Except Failure (Option Definition)}
    (hj : s.callers[j]? = some (.answered result)) :
    (s.run schedule).callers[j]? = some (.answered result) := by
  induction schedule generalizing s with
  | nil => exact hj
  | cons i schedule ih => exact ih (h.turn i) (h.answered_turn i hj)

theorem removed?_of_succeeded {i : Nat} {id : String} (hcall : calls[i]? = some (.delete id))
    (hi : s.Succeeded i) : ∃ e, (s.served calls)[i]? = some e ∧ e.1.removed? e.2 = some id := by
  obtain ⟨born, hc⟩ := hi
  exact ⟨_, getElem?_served.2 ⟨hcall, hc⟩, rfl⟩

/-- What a deletion has removed is not stored. -/
theorem Orderly.not_stored (h : s.Orderly calls) {i : Nat} {id : String}
    (hcall : calls[i]? = some (.delete id)) (hi : s.Succeeded i) : id ∉ s.repository.ids := by
  obtain ⟨e, he, hid⟩ := removed?_of_succeeded hcall hi
  have hremoved : id ∈ (s.served calls).filterMap fun e => e.1.removed? e.2 :=
    List.mem_filterMap.2 ⟨e, List.mem_of_getElem? he, hid⟩
  intro hstored
  exact (List.nodup_append'.1 h.nodup).2.2 (List.mem_append_right _ hstored) hremoved

/-- No two deletions have removed the same. -/
theorem Orderly.eq_of_succeeded (h : s.Orderly calls) {i j : Nat} {id : String}
    (hcall : calls[i]? = some (.delete id)) (hcall' : calls[j]? = some (.delete id))
    (hi : s.Succeeded i) (hj : s.Succeeded j) : i = j := by
  obtain ⟨e, he, hid⟩ := removed?_of_succeeded hcall hi
  obtain ⟨e', he', hid'⟩ := removed?_of_succeeded hcall' hj
  exact eq_of_nodup_filterMap (List.nodup_append'.1 h.nodup).2.1 he he' hid hid'

theorem Orderly.succeeded_run (h : s.Orderly calls) (schedule : List Nat) {i : Nat}
    (hi : s.Succeeded i) : (s.run schedule).Succeeded i := by
  obtain ⟨born, hc⟩ := hi
  exact ⟨born, h.answered_run schedule hc⟩

/-- A step of an update changes no identifier. -/
theorem Orderly.ids_turn (h : s.Orderly calls) {j : Nat} {id : String} {now : Timestamp}
    {patch : Patch} (hcall : calls[j]? = some (.update id now patch)) :
    (s.turn j).repository.ids = s.repository.ids := by
  rcases turn_cases h j with ⟨-, hsame⟩ | ⟨call, c, hserved, hproceeds, hturn⟩
  · rw [hsame]
  · obtain rfl := Option.some.inj (hcall.symm.trans (getElem?_served.1 hserved).1)
    rw [hturn]
    exact hproceeds.update id now patch rfl

/-- A step of an update of a workflow that is not stored finds out. -/
theorem Orderly.missing_turn (h : s.Orderly calls) {j : Nat} {id : String} {now : Timestamp}
    {patch : Patch} (hcall : calls[j]? = some (.update id now patch)) (hopen : ¬ s.Answered j)
    (hgone : id ∉ s.repository.ids) : (s.turn j).callers[j]? = some (.missing id) := by
  obtain ⟨hj, -⟩ := List.getElem?_eq_some_iff.1 hcall
  rw [← h.length] at hj
  rcases turn_cases h j with ⟨hnone, -⟩ | ⟨call, c, hserved, hproceeds, hturn⟩
  · rw [List.getElem?_eq_getElem hj] at hnone
    cases hnone
  · obtain ⟨hcall', hc⟩ := getElem?_served.1 hserved
    obtain rfl := Option.some.inj (hcall.symm.trans hcall')
    have hmissing := hproceeds.missing id now patch rfl hgone
      fun result hresult => hopen ⟨result, hresult ▸ hc⟩
    rw [hturn, List.getElem?_set_self hj, hmissing]

/-- An update that is not answered when its workflow is removed is answered that it is missing. -/
theorem Orderly.missing_run (h : s.Orderly calls) {i j : Nat} {id : String} {now : Timestamp}
    {patch : Patch} (hdelete : calls[i]? = some (.delete id)) (hi : s.Succeeded i)
    (hcall : calls[j]? = some (.update id now patch))
    (hopen : s.Answered j → s.callers[j]? = some (.missing id)) (schedule : List Nat)
    (hanswered : (s.run schedule).Answered j) :
    (s.run schedule).callers[j]? = some (.missing id) := by
  induction schedule generalizing s with
  | nil => exact hopen hanswered
  | cons k schedule ih =>
    refine ih (h.turn k) (h.succeeded_run [k] hi) ?_ hanswered
    rintro ⟨result, hresult⟩
    by_cases hj : s.Answered j
    · exact h.answered_turn k (hopen hj)
    · by_cases hsame : k = j
      · subst hsame
        exact h.missing_turn hcall hj (h.not_stored hdelete hi)
      · refine absurd ⟨result, ?_⟩ hj
        rcases turn_cases h k with ⟨-, hturn⟩ | ⟨call, c, -, -, hturn⟩
        · rwa [hturn] at hresult
        · rw [hturn] at hresult
          rwa [List.getElem?_set_ne hsame] at hresult

end Callers

theorem Repository.mem_ids_of_mem_list {r : Repository} {f : DefinitionFilter} {d : Definition}
    (h : d ∈ r.list f) : d.id ∈ r.ids := by
  rw [Repository.list_eq] at h
  exact List.mem_map_of_mem (r.listing_perm.mem_iff.1 (List.mem_of_mem_filter h))

/-- What becomes of the workflows of a reachable store that callers create, update and delete at the
same time, the identifiers of the creations being fresh.

A workflow is deleted by one deletion at most, and no step of an update changes which identifiers
are stored.  After a deletion has succeeded, whatever steps come later, the workflow is not found,
listed or triggered, and an update that was not answered then is answered that the workflow is
missing, also if it had read the workflow before. -/
theorem deleted_for_good (r : Repository) (hr : r.Reachable) (calls : List StoreCall)
    (fresh : (calls.filterMap StoreCall.issued?).Nodup)
    (unused : ∀ id ∈ calls.filterMap StoreCall.issued?, r.get? id = none)
    (earlier later : List Nat) :
    let s := (Callers.opening r calls).run earlier
    let final := s.run later
    (∀ i j id, calls[i]? = some (.delete id) → calls[j]? = some (.delete id) →
      s.Succeeded i → s.Succeeded j → i = j) ∧
    (∀ j id now patch, calls[j]? = some (.update id now patch) →
      (s.turn j).repository.ids = s.repository.ids) ∧
    ∀ i id, calls[i]? = some (.delete id) → s.Succeeded i →
      Store.get final.repository id = .error (.unknown id) ∧
      (∀ isActive eventType ds, Store.list final.repository isActive eventType = .ok ds →
        ∀ d ∈ ds, d.id ≠ id) ∧
      (∀ t, ∀ d ∈ Store.active final.repository t, d.id ≠ id) ∧
      ∀ j now patch, calls[j]? = some (.update id now patch) → ¬ s.Answered j →
        (¬ final.Answered j → (final.turn j).callers[j]? = some (.missing id)) ∧
        (final.Answered j → final.callers[j]? = some (.missing id)) := by
  intro s final
  have horderly : s.Orderly calls := (Callers.orderly_opening hr.sound fresh unused).run earlier
  have hfinal : final.Orderly calls := horderly.run later
  refine ⟨fun i j id => horderly.eq_of_succeeded, fun j id now patch => horderly.ids_turn, ?_⟩
  intro i id hdelete hi
  have hgone : id ∉ final.repository.ids :=
    hfinal.not_stored hdelete (horderly.succeeded_run later hi)
  have hlisted : ∀ {f : DefinitionFilter}, ∀ d ∈ final.repository.list f, d.id ≠ id := by
    rintro f d hd rfl
    exact hgone (Repository.mem_ids_of_mem_list hd)
  refine ⟨?_, ?_, fun t d hd => hlisted d (List.mem_of_mem_filter hd), ?_⟩
  · rw [Store.get, Repository.get?_eq_none_iff.2 hgone]
  · intro isActive eventType ds hds
    simp only [Store.list, bind_eq_ok_iff, pure_eq_ok_iff] at hds
    obtain ⟨f, -, rfl⟩ := hds
    exact hlisted
  · intro j now patch hcall hopen
    exact ⟨fun hj => hfinal.missing_turn hcall hj hgone,
      horderly.missing_run hdelete hi hcall (fun hj => absurd hj hopen) later⟩

/-- An update that has read a workflow, a deletion of it, another one, and a creation. -/
def contested : List StoreCall :=
  [.update "id0001" ⟨1, some 0⟩ greeting, .delete "id0001", .delete "id0001",
    .create "id0002" ⟨2, some 0⟩
      { name := .text "Farewell", eventType := .text "customer_created",
        actions := .list [.mapping [("type", .text "create_notification")]] }]

/-- The update comes too late, and the workflow is gone. -/
theorem deleted_for_good_contested :
    Engine.welcoming.repository.Reachable ∧ (contested.filterMap StoreCall.issued?).Nodup ∧
      (∀ id ∈ contested.filterMap StoreCall.issued?, Engine.welcoming.repository.get? id = none) ∧
      let s := (Callers.opening Engine.welcoming.repository contested).run [0, 1]
      s.Succeeded 1 ∧ ¬ s.Answered 0 ∧
        (s.run [3, 0, 2]).callers[0]? = some (.missing "id0001") ∧
        Store.get (s.run [3, 0, 2]).repository "id0001" = .error (.unknown "id0001") := by
  have hr : Engine.welcoming.repository.Reachable :=
    Engine.reachable_createWorkflow ⟨.database, [], rfl⟩ _
  have hissued : contested.filterMap StoreCall.issued? = ["id0002"] := rfl
  have hfresh : (contested.filterMap StoreCall.issued?).Nodup := by
    rw [hissued]
    exact List.nodup_singleton _
  have hunused : ∀ id ∈ contested.filterMap StoreCall.issued?,
      Engine.welcoming.repository.get? id = none := by
    rw [hissued]
    rintro id hid
    obtain rfl := List.mem_singleton.1 hid
    rfl
  obtain ⟨-, -, hgone⟩ := deleted_for_good _ hr contested hfresh hunused [0, 1] [3, 0, 2]
  set s := (Callers.opening Engine.welcoming.repository contested).run [0, 1]
  have hsucceeded : s.Succeeded 1 := ⟨none, rfl⟩
  have hopen : ¬ s.Answered 0 := by
    rintro ⟨result, hresult⟩
    cases hresult
  obtain ⟨hget, -, -, hupdate⟩ := hgone 1 "id0001" rfl hsucceeded
  refine ⟨hr, hfresh, hunused, hsucceeded, hopen, ?_, hget⟩
  exact (hupdate 0 ⟨1, some 0⟩ greeting rfl hopen).2 ⟨_, rfl⟩

end Automation
