import Automation.Management
import Automation.Proofs.Workflow.Flatten
import Mathlib.Data.List.Nodup

/-!
# Stores that can be reached

A store begins empty, and four calls change it: a workflow is created, created from a starter,
updated or deleted (`StoreCall`).  A call that is refused leaves the store as it is.  A store is
*reachable* if it comes of some calls (`Repository.Reachable`).

A repository is *sound* if its workflows are valid, settled for its backend, and have identifiers of
their own.  Each of the four calls is one of three changes (`Repository.Change`), and each change
keeps a repository sound, so every reachable store is sound (`Repository.Reachable.sound`).

The *birth* of a workflow is its identifier with its time of creation.  The births of the stored
workflows stand in the order in which the workflows were created (`sublist_births`).  Where no two
creations are given the same identifier, the birth under an identifier stays the same through the
whole history (`createdAt_eq_of_fresh`).
-/

namespace Automation

/-! ## Sound repositories -/

/-- A repository that is in order. -/
structure Repository.Sound (r : Repository) : Prop where
  valid : ∀ d ∈ r.definitions, d.Valid
  settled : ∀ d ∈ r.definitions, r.backend.Settled d
  nodup : (r.definitions.map (·.id)).Nodup

namespace Repository

theorem sound_empty (b : Backend) : (empty b).Sound where
  valid := by simp [empty]
  settled := by simp [empty]
  nodup := by simp [empty]

theorem get?_eq_none_iff {r : Repository} {id : String} :
    r.get? id = none ↔ id ∉ r.definitions.map (·.id) := by
  simp [get?, List.find?_eq_none]

end Repository

/-- A change that keeps the time of creation keeps it in the form of the backend. -/
theorem Backend.createdAt_stored {b : Backend} {old d : Definition} (hold : b.Settled old)
    (h : d.createdAt = old.createdAt) : (b.stored d).createdAt = old.createdAt := by
  cases b with
  | memory => exact h
  | database =>
    rw [← Timestamp.flatten_of_utc hold.createdAt, ← h]
    rfl

/-! ## What the operations do -/

namespace Store

theorem create_eq (r : Repository) (id : String) (now : Timestamp) (p : Draft) :
    create r id now p = (do
      let d ← (p.check id now).mapError StoreError.rule
      (r.add d).mapError StoreError.storage) := by
  rw [create]
  cases p.check id now with
  | error e => rfl
  | ok d => cases h : r.add d <;> simp [Except.mapError, bind, Except.bind, h]

theorem create_eq_ok_iff {r r' : Repository} {id : String} {now : Timestamp} {p : Draft}
    {kept : Definition} :
    create r id now p = .ok (kept, r') ↔
      ∃ d, p.Describes id now d ∧ r.backend.accepts d = true ∧ r.get? id = none ∧
        kept = r.backend.stored d ∧ r' = r.insert kept := by
  simp only [create_eq, bind_eq_ok_iff, mapError_eq_ok_iff, Draft.check_eq_ok_iff,
    Repository.add_eq_ok_iff]
  constructor
  · rintro ⟨d, hd, haccepts, hnew, hkept, hr⟩
    exact ⟨d, hd, haccepts, hd.id ▸ hnew, hkept, hr⟩
  · rintro ⟨d, hd, haccepts, hnew, hkept, hr⟩
    exact ⟨d, hd, haccepts, hd.id ▸ hnew, hkept, hr⟩

theorem get_eq_ok_iff {r : Repository} {id : String} {d : Definition} :
    get r id = .ok d ↔ r.get? id = some d := by
  rw [get]
  cases r.get? id <;> simp

theorem merge?_eq (r : Repository) (id : String) (now : Timestamp) (p : Patch) :
    merge? r id now p = (do
      let d ← get r id
      (p.apply d now).mapError StoreError.rule) := by
  rw [merge?]
  cases get r id with
  | error e => rfl
  | ok d => cases h : p.apply d now <;> simp [Except.mapError, bind, Except.bind, h]

/-- The first step of an update reads the workflow and leads to the changed one. -/
theorem merge?_eq_ok_iff {r : Repository} (hr : r.Sound) {id : String} {now : Timestamp}
    {p : Patch} {d : Definition} :
    merge? r id now p = .ok d ↔ ∃ old, r.get? id = some old ∧ p.Leads now old d := by
  simp only [merge?_eq, bind_eq_ok_iff, get_eq_ok_iff, mapError_eq_ok_iff]
  refine exists_congr fun old => and_congr_right fun hfound => ?_
  exact Patch.apply_eq_ok_iff (hr.valid old (Repository.mem_of_get? hfound).1)

theorem update_eq_ok_iff {r r' : Repository} (hr : r.Sound) {id : String} {now : Timestamp}
    {p : Patch} {kept : Definition} :
    update r id now p = .ok (kept, r') ↔
      ∃ old d, r.get? id = some old ∧ p.Leads now old d ∧ r.backend.accepts d = true ∧
        kept = r.backend.stored d ∧ r' = r.set kept := by
  simp only [update, bind_eq_ok_iff, merge?_eq_ok_iff hr]
  constructor
  · rintro ⟨d, ⟨old, hfound, hleads⟩, hput⟩
    obtain ⟨hmem, hid⟩ := Repository.mem_of_get? hfound
    have hd : r.get? d.id = some old := by rw [hleads.id, hid, hfound]
    have hreplace : r.replace? d = some (.ok (kept, r')) := by
      rw [put] at hput
      split at hput
      · rename_i h
        rw [h, ← Except.ok.inj hput]
      · cases hput
      · cases hput
    rw [Repository.replace?_eq_ok_iff hd hleads.createdAt] at hreplace
    exact ⟨old, d, hfound, hleads, hreplace⟩
  · rintro ⟨old, d, hfound, hleads, haccepts, hkept, hset⟩
    obtain ⟨hmem, hid⟩ := Repository.mem_of_get? hfound
    have hd : r.get? d.id = some old := by rw [hleads.id, hid, hfound]
    refine ⟨d, ⟨old, hfound, hleads⟩, ?_⟩
    have hreplace : r.replace? d = some (.ok (kept, r')) :=
      (Repository.replace?_eq_ok_iff hd hleads.createdAt).2
        ⟨haccepts, hkept, hset⟩
    rw [put, hreplace]

theorem delete_eq_ok_iff {r r' : Repository} {id : String} :
    delete r id = .ok r' ↔ (r.get? id).isSome = true ∧ r' = r.erase id := by
  rw [delete, Repository.delete?]
  cases r.get? id with
  | none => simp
  | some d => simp [Repository.erase, eq_comm]

end Store

/-! ## Changes -/

/-- The identifier and the time of creation. -/
def Definition.birth (d : Definition) : String × Timestamp := (d.id, d.createdAt)

namespace Repository

/-- The births of the stored workflows, in the order in which these came. -/
def births (r : Repository) : List (String × Timestamp) := r.definitions.map Definition.birth

/-- What a call makes of a repository, and the workflow that it creates. -/
inductive Change (r : Repository) : Option Definition → Repository → Prop where
  | refused : Change r none r
  | added {d : Definition} (valid : d.Valid) (settled : r.backend.Settled d)
      (new : r.get? d.id = none) : Change r (some d) (r.insert d)
  | replaced {old d : Definition} (valid : d.Valid) (settled : r.backend.Settled d)
      (found : r.get? d.id = some old) (created : d.createdAt = old.createdAt) :
      Change r none (r.set d)
  | removed (id : String) : Change r none (r.erase id)

theorem births_set {r : Repository} (hr : r.Sound) {old d : Definition}
    (hfound : r.get? d.id = some old) (hcreated : d.createdAt = old.createdAt) :
    (r.set d).births = r.births := by
  obtain ⟨hold, hid⟩ := mem_of_get? hfound
  rw [births, set, List.map_map]
  refine List.map_congr_left fun e he => ?_
  by_cases hsame : e.id = d.id
  · obtain rfl : e = old := List.inj_on_of_nodup_map hr.nodup he hold (by rw [hsame, hid])
    simp [Definition.birth, hsame, hcreated]
  · simp [hsame]

theorem map_id_births (r : Repository) : r.births.map Prod.fst = r.definitions.map (·.id) := by
  simp [births, Definition.birth, Function.comp_def]

theorem Change.backend_eq {r r' : Repository} {born : Option Definition} (h : r.Change born r') :
    r'.backend = r.backend := by
  cases h <;> rfl

theorem Change.sound {r r' : Repository} {born : Option Definition} (h : r.Change born r')
    (hr : r.Sound) : r'.Sound := by
  cases h with
  | refused => exact hr
  | @added d valid settled new =>
    refine ⟨?_, ?_, ?_⟩
    · intro e he
      rcases List.mem_append.1 he with he | he
      · exact hr.valid e he
      · exact List.mem_singleton.1 he ▸ valid
    · intro e he
      rcases List.mem_append.1 he with he | he
      · exact hr.settled e he
      · exact List.mem_singleton.1 he ▸ settled
    · have hdisjoint : d.id ∉ r.definitions.map (·.id) := get?_eq_none_iff.1 new
      simp only [insert, List.map_append, List.map_cons, List.map_nil]
      exact List.concat_eq_append ▸ List.Nodup.concat hdisjoint hr.nodup
  | @replaced old d valid settled found created =>
    have hmem : ∀ e ∈ (r.set d).definitions, e = d ∨ e ∈ r.definitions := by
      intro e he
      obtain ⟨given, hgiven, rfl⟩ := List.mem_map.1 he
      split
      · exact .inl rfl
      · exact .inr hgiven
    refine ⟨?_, ?_, ?_⟩
    · intro e he
      rcases hmem e he with rfl | he
      · exact valid
      · exact hr.valid e he
    · intro e he
      rcases hmem e he with rfl | he
      · exact settled
      · exact hr.settled e he
    · rw [← map_id_births, births_set hr found created, map_id_births]
      exact hr.nodup
  | removed id =>
    refine ⟨fun e he => hr.valid e (List.mem_of_mem_filter he),
      fun e he => hr.settled e (List.mem_of_mem_filter he), ?_⟩
    exact hr.nodup.sublist (List.filter_sublist.map _)

/-- A change keeps the births in their order; only that of the workflow it creates comes after. -/
theorem Change.sublist_births {r r' : Repository} {born : Option Definition}
    (h : r.Change born r') (hr : r.Sound) :
    r'.births.Sublist (r.births ++ born.toList.map Definition.birth) := by
  cases h with
  | refused => simp
  | added _ _ _ => simp [births, insert]
  | replaced _ _ found created => simp [births_set hr found created]
  | removed id =>
    simp only [Option.toList_none, List.map_nil, List.append_nil]
    exact List.filter_sublist.map _

end Repository

/-! ## Calls -/

/-- A call that changes the stored workflows.  A creation is given an identifier, and a creation or
an update the time of day. -/
inductive StoreCall where
  | create (id : String) (now : Timestamp) (draft : Draft)
  | createFromStarter (id : String) (now : Timestamp) (starter name choices : Value)
  | update (id : String) (now : Timestamp) (patch : Patch)
  | delete (id : String)

namespace StoreCall

/-- The identifier that a creation is given. -/
def issued? : StoreCall → Option String
  | .create id .. => some id
  | .createFromStarter id .. => some id
  | _ => none

/-- What a call comes to: the workflow that it creates, if any, and the repository after it. -/
def perform (r : Repository) : StoreCall → Except Failure (Option Definition × Repository)
  | .create id now draft =>
    ((Store.create r id now draft).mapError StoreError.toFailure).map fun e => (some e.1, e.2)
  | .createFromStarter id now starter name choices => do
    let draft ← Starter.customized starter name choices
    ((Store.create r id now draft).mapError StoreError.toFailure).map fun e => (some e.1, e.2)
  | .update id now patch =>
    ((Store.update r id now patch).mapError StoreError.toFailure).map fun e => (none, e.2)
  | .delete id => ((Store.delete r id).mapError StoreError.toFailure).map fun r => (none, r)

theorem change_of_create {r r' : Repository} {id : String} {now : Timestamp} {draft : Draft}
    {kept : Definition} (h : Store.create r id now draft = .ok (kept, r')) :
    r.Change (some kept) r' ∧ kept.id = id := by
  obtain ⟨d, hd, haccepts, hnew, rfl, rfl⟩ := Store.create_eq_ok_iff.1 h
  have hid : (r.backend.stored d).id = id := by rw [Repository.id_stored, hd.id]
  exact ⟨.added (Backend.valid_stored hd.valid) (Backend.settled_stored haccepts)
    (by rw [hid, hnew]), hid⟩

/-- A call that is not refused changes a sound repository in one of the known ways. -/
theorem change_of_perform {r r' : Repository} (hr : r.Sound) {c : StoreCall}
    {born : Option Definition} (h : c.perform r = .ok (born, r')) :
    r.Change born r' ∧ ∀ d ∈ born, c.issued? = some d.id := by
  cases c with
  | create id now draft =>
    simp only [perform, map_eq_ok_iff, mapError_eq_ok_iff] at h
    obtain ⟨⟨kept, r''⟩, hcreate, heq⟩ := h
    cases heq
    obtain ⟨hchange, rfl⟩ := change_of_create hcreate
    exact ⟨hchange, by simp [issued?]⟩
  | createFromStarter id now starter name choices =>
    simp only [perform, bind_eq_ok_iff, map_eq_ok_iff, mapError_eq_ok_iff] at h
    obtain ⟨draft, -, ⟨kept, r''⟩, hcreate, heq⟩ := h
    cases heq
    obtain ⟨hchange, rfl⟩ := change_of_create hcreate
    exact ⟨hchange, by simp [issued?]⟩
  | update id now patch =>
    simp only [perform, map_eq_ok_iff, mapError_eq_ok_iff] at h
    obtain ⟨⟨kept, r''⟩, hupdate, heq⟩ := h
    cases heq
    obtain ⟨old, d, hfound, hleads, haccepts, rfl, rfl⟩ := (Store.update_eq_ok_iff hr).1 hupdate
    obtain ⟨hmem, hid⟩ := Repository.mem_of_get? hfound
    have hkept : (r.backend.stored d).id = id := by rw [Repository.id_stored, hleads.id, hid]
    have hcreated := Backend.createdAt_stored (hr.settled old hmem) hleads.createdAt
    exact ⟨.replaced (Backend.valid_stored (hleads.valid (hr.valid old hmem)))
      (Backend.settled_stored haccepts) (by rw [hkept, hfound]) hcreated, by simp⟩
  | delete id =>
    simp only [perform, map_eq_ok_iff, mapError_eq_ok_iff] at h
    obtain ⟨r'', hdelete, heq⟩ := h
    cases heq
    obtain ⟨-, rfl⟩ := Store.delete_eq_ok_iff.1 hdelete
    exact ⟨.removed id, by simp⟩

end StoreCall

namespace Repository

/-- The repository after a call; one that is refused leaves it as it is. -/
def after (r : Repository) (c : StoreCall) : Repository :=
  match c.perform r with
  | .ok e => e.2
  | .error _ => r

/-- The workflow that a call creates. -/
def born? (r : Repository) (c : StoreCall) : Option Definition :=
  match c.perform r with
  | .ok e => e.1
  | .error _ => none

/-- The repository after several calls. -/
def afterAll (r : Repository) (calls : List StoreCall) : Repository := calls.foldl after r

/-- The births of the workflows that several calls create, in the order of the calls. -/
def birthsOf (r : Repository) : List StoreCall → List (String × Timestamp)
  | [] => []
  | c :: calls => (r.born? c).toList.map Definition.birth ++ birthsOf (r.after c) calls

theorem change_after {r : Repository} (hr : r.Sound) (c : StoreCall) :
    r.Change (r.born? c) (r.after c) ∧ ∀ d ∈ r.born? c, c.issued? = some d.id := by
  rw [after, born?]
  cases h : c.perform r with
  | error f => exact ⟨.refused, by simp⟩
  | ok e => exact StoreCall.change_of_perform hr h

theorem sound_afterAll {r : Repository} (hr : r.Sound) (calls : List StoreCall) :
    (r.afterAll calls).Sound := by
  induction calls generalizing r with
  | nil => exact hr
  | cons c calls ih => exact ih ((change_after hr c).1.sound hr)

theorem backend_afterAll {r : Repository} (hr : r.Sound) (calls : List StoreCall) :
    (r.afterAll calls).backend = r.backend := by
  induction calls generalizing r with
  | nil => rfl
  | cons c calls ih =>
    have hchange := (change_after hr c).1
    exact (ih (hchange.sound hr)).trans hchange.backend_eq

/-- The births of the stored workflows stand in the order of the creations. -/
theorem sublist_births {r : Repository} (hr : r.Sound) (calls : List StoreCall) :
    (r.afterAll calls).births.Sublist (r.births ++ r.birthsOf calls) := by
  induction calls generalizing r with
  | nil => simp [afterAll, birthsOf]
  | cons c calls ih =>
    have hchange := (change_after hr c).1
    rw [birthsOf, ← List.append_assoc]
    exact (ih (hchange.sound hr)).trans ((hchange.sublist_births hr).append_right _)

theorem birthsOf_append (r : Repository) (earlier later : List StoreCall) :
    r.birthsOf (earlier ++ later) =
      r.birthsOf earlier ++ (r.afterAll earlier).birthsOf later := by
  induction earlier generalizing r with
  | nil => rfl
  | cons c calls ih =>
    rw [List.cons_append, birthsOf, birthsOf, ih, List.append_assoc]
    rfl

/-- Every birth is under the identifier that its creation was given. -/
theorem map_fst_birthsOf {r : Repository} (hr : r.Sound) (calls : List StoreCall) :
    ((r.birthsOf calls).map Prod.fst).Sublist (calls.filterMap StoreCall.issued?) := by
  induction calls generalizing r with
  | nil => simp [birthsOf]
  | cons c calls ih =>
    obtain ⟨hchange, hissued⟩ := change_after hr c
    have hrest := ih (hchange.sound hr)
    rw [birthsOf, List.map_append]
    cases hborn : r.born? c with
    | none =>
      refine hrest.trans ?_
      exact (List.sublist_cons_self c calls).filterMap _
    | some d =>
      rw [List.filterMap_cons, hissued d hborn]
      exact hrest.cons_cons d.id

/-- Where no two creations are given the same identifier, the time of creation under an identifier
never changes. -/
theorem createdAt_eq_of_fresh {b : Backend} {earlier later : List StoreCall}
    (fresh : ((earlier ++ later).filterMap StoreCall.issued?).Nodup) {d e : Definition}
    (hd : d ∈ ((empty b).afterAll earlier).definitions)
    (he : e ∈ ((empty b).afterAll (earlier ++ later)).definitions) (hid : e.id = d.id) :
    e.createdAt = d.createdAt := by
  have hempty := sound_empty b
  have hnodup : (((empty b).birthsOf (earlier ++ later)).map Prod.fst).Nodup :=
    fresh.sublist (map_fst_birthsOf hempty _)
  have hbirths : ∀ {calls : List StoreCall} {x : Definition},
      x ∈ ((empty b).afterAll calls).definitions → x.birth ∈ (empty b).birthsOf calls := by
    intro calls x hx
    exact (sublist_births hempty calls).mem (List.mem_map_of_mem hx)
  have hdbirth : d.birth ∈ (empty b).birthsOf (earlier ++ later) := by
    rw [birthsOf_append]
    exact List.mem_append_left _ (hbirths hd)
  exact congrArg Prod.snd (List.inj_on_of_nodup_map hnodup (hbirths he) hdbirth hid)

/-- A store that comes of calls from an empty one. -/
def Reachable (r : Repository) : Prop :=
  ∃ (b : Backend) (calls : List StoreCall), r = (empty b).afterAll calls

theorem Reachable.sound {r : Repository} (h : r.Reachable) : r.Sound := by
  obtain ⟨b, calls, rfl⟩ := h
  exact sound_afterAll (sound_empty b) calls

theorem Reachable.after {r : Repository} (h : r.Reachable) (c : StoreCall) :
    (r.after c).Reachable := by
  obtain ⟨b, calls, rfl⟩ := h
  exact ⟨b, calls ++ [c], by simp [afterAll]⟩

end Repository

/-! ## The engine -/

namespace Engine

theorem repository_createWorkflow (s : Engine) (draft : Draft) :
    (s.createWorkflow draft).2.repository =
      s.repository.after (.create (identifier (s.issued + 1)) s.clock draft) := by
  simp only [createWorkflow, issue, Repository.after, StoreCall.perform]
  cases Store.create s.repository (identifier (s.issued + 1)) s.clock draft <;> rfl

theorem reachable_createWorkflow {s : Engine} (h : s.repository.Reachable) (draft : Draft) :
    (s.createWorkflow draft).2.repository.Reachable := by
  rw [repository_createWorkflow]
  exact h.after _

theorem repository_createFromStarter (s : Engine) (starter name choices : Value) :
    (s.createFromStarter starter name choices).2.repository =
      s.repository.after
        (.createFromStarter (identifier (s.issued + 1)) s.clock starter name choices) := by
  simp only [createFromStarter, Repository.after, StoreCall.perform]
  cases hdraft : Starter.customized starter name choices with
  | error f => rfl
  | ok draft => exact s.repository_createWorkflow draft

theorem repository_updateWorkflow (s : Engine) (id : String) (p : Patch) :
    (s.updateWorkflow id p).2.repository = s.repository.after (.update id s.clock p) := by
  simp only [updateWorkflow, Repository.after, StoreCall.perform]
  cases Store.update s.repository id s.clock p <;> rfl

theorem repository_deleteWorkflow (s : Engine) (id : String) :
    (s.deleteWorkflow id).2.repository = s.repository.after (.delete id) := by
  simp only [deleteWorkflow, Repository.after, StoreCall.perform]
  cases Store.delete s.repository id <;> rfl

end Engine

end Automation
