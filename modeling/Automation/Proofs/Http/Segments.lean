import Automation.Http.Url
import Automation.Proofs.Checks
import Automation.Proofs.Text.Percent

/-!
# Segments behind a URL

What follows a text that is a URL goes to the last of its parts: to the fragment if there is one,
else to the query if there is one, else to the path (`ofText_append`).  In the path one segment more
is one segment more of the path without dot segments, unless it is a dot segment itself
(`normalPath_append_segment`); `.` leaves that path as it is (`normalPath_append_dot`), and `..`
takes the segment before it away (`normalPath_append_up`).

An encoded segment needs no further encoding in any of the three parts.  So a URL that tells a host
and ends with such a segment is the URL before it and that segment (`read_append_segment`).
-/

namespace Automation

/-! ## Cutting longer texts -/

namespace Text

/-- A text that is cut is cut at the same place when more follows. -/
theorem cutAt_append_of_some {separator : Char} {cs rest : List Char}
    (h : (cutAt separator cs).2 = some rest) (t : List Char) :
    cutAt separator (cs ++ t) = ((cutAt separator cs).1, some (rest ++ t)) := by
  induction cs with
  | nil => cases h
  | cons c cs ih =>
    rw [List.cons_append, cutAt, cutAt]
    rw [cutAt] at h
    split
    · rename_i hc
      rw [if_pos hc] at h
      cases h
      rfl
    · rename_i hc
      rw [if_neg hc] at h
      rw [ih h]

/-- A text that is not cut stays whole when something without the separator follows. -/
theorem cutAt_append_of_none {separator : Char} {cs t : List Char}
    (h : (cutAt separator cs).2 = none) (ht : separator ∉ t) :
    cutAt separator (cs ++ t) = (cs ++ t, none) := by
  induction cs with
  | nil =>
    rw [List.nil_append]
    clear h
    induction t with
    | nil => rfl
    | cons c t ih =>
      obtain ⟨hne, ht⟩ := List.ne_and_not_mem_of_not_mem_cons ht
      rw [cutAt, if_neg (Ne.symm hne), ih ht]
  | cons c cs ih =>
    rw [cutAt] at h
    split at h
    · cases h
    · rename_i hc
      rw [List.cons_append, cutAt, if_neg hc, ih h]

theorem fst_cutAt_of_none {separator : Char} {cs : List Char}
    (h : (cutAt separator cs).2 = none) : (cutAt separator cs).1 = cs := by
  simpa using congrArg Prod.fst (cutAt_append_of_none h List.not_mem_nil)

theorem cutAt_of_some {separator : Char} {cs rest : List Char}
    (h : (cutAt separator cs).2 = some rest) :
    cs = (cutAt separator cs).1 ++ separator :: rest := by
  induction cs with
  | nil => cases h
  | cons c cs ih =>
    rw [cutAt] at h ⊢
    split at h
    · rename_i hc
      cases h
      simp [hc]
    · rename_i hc
      rw [if_neg hc, List.cons_append, ← ih h]

/-- A text without the separator is its only part. -/
theorem splitOn_of_not_mem {separator : Char} {cs : List Char} (h : separator ∉ cs) :
    splitOn separator cs = [cs] := by
  induction cs with
  | nil => rfl
  | cons c cs ih =>
    obtain ⟨hne, hcs⟩ := List.ne_and_not_mem_of_not_mem_cons h
    rw [splitOn, if_neg (Ne.symm hne), ih hcs]

/-- What a character stops stays the same, whatever follows that character. -/
theorem takeWhile_append_cons_of_neg {p : Char → Bool} {c : Char} (cs : List Char)
    (h : p c = false) (t : List Char) : (cs ++ c :: t).takeWhile p = cs.takeWhile p := by
  induction cs with
  | nil => simp [h]
  | cons d cs ih => simp [List.takeWhile_cons, ih]

theorem dropWhile_append_cons_of_neg {p : Char → Bool} {c : Char} (cs : List Char)
    (h : p c = false) (t : List Char) :
    (cs ++ c :: t).dropWhile p = cs.dropWhile p ++ c :: t := by
  induction cs with
  | nil => simp [h]
  | cons d cs ih =>
    simp only [List.cons_append, List.dropWhile_cons]
    split
    · exact ih
    · rfl

end Text

namespace Http.Url

/-! ## Paths without dot segments -/

/-- What follows is resolved behind what is left of the segments before. -/
theorem resolveDots_append (taken segments rest : List (List Char)) :
    resolveDots taken (segments ++ rest) =
      resolveDots (resolveDots taken segments).reverse rest := by
  induction segments generalizing taken with
  | nil => rw [List.nil_append, resolveDots, List.reverse_reverse]
  | cons s segments ih =>
    rw [List.cons_append, resolveDots, resolveDots]
    split
    · exact ih taken
    split
    · exact ih _
    · exact ih _

/-- The root is never left. -/
theorem resolveDots_root_ne_nil (taken segments : List (List Char)) :
    resolveDots (taken ++ [[]]) segments ≠ [] := by
  induction segments generalizing taken with
  | nil => simp [resolveDots]
  | cons s segments ih =>
    rw [resolveDots]
    split
    · exact ih taken
    split
    · cases taken with
      | nil => exact ih []
      | cons t taken =>
        rw [if_neg (by simp), List.cons_append, List.tail_cons]
        exact ih taken
    · exact ih (s :: taken)

theorem joinSegments_cons {segments : List (List Char)} (h : segments ≠ []) (s : List Char) :
    joinSegments (s :: segments) = s ++ '/' :: joinSegments segments := by
  cases segments with
  | nil => exact absurd rfl h
  | cons s' segments => rfl

theorem joinSegments_concat {segments : List (List Char)} (h : segments ≠ [])
    (segment : List Char) :
    joinSegments (segments ++ [segment]) = joinSegments segments ++ '/' :: segment := by
  induction segments with
  | nil => exact absurd rfl h
  | cons s segments ih =>
    cases segments with
    | nil => rfl
    | cons s' segments =>
      have hne : s' :: segments ≠ [] := List.cons_ne_nil s' segments
      rw [List.cons_append, joinSegments_cons (by simp), ih hne, joinSegments_cons hne,
        List.append_assoc, List.cons_append]

/-- Empty, or beginning at the root. -/
def Rooted (path : List Char) : Prop := path = [] ∨ path.head? = some '/'

theorem Rooted.resolveDots_ne_nil {path : List Char} (h : Rooted path) :
    resolveDots [] (Text.splitOn '/' path) ≠ [] := by
  rcases h with rfl | hhead
  · simp [Text.splitOn, resolveDots]
  · obtain ⟨rest, rfl⟩ := List.head?_eq_some_iff.1 hhead
    rw [Text.splitOn, if_pos rfl, resolveDots]
    exact resolveDots_root_ne_nil [] _

/-- What follows a path is resolved behind what is left of the path. -/
theorem normalPath_append (path t : List Char) :
    normalPath (path ++ '/' :: t) =
      joinSegments (resolveDots (resolveDots [] (Text.splitOn '/' path)).reverse
        (Text.splitOn '/' t)) := by
  rw [normalPath, Text.splitOn_append, resolveDots_append]

section

variable {segment : List Char} (hslash : '/' ∉ segment) (hdot : segment ≠ ['.'])
  (hdots : segment ≠ ['.', '.'])
include hslash hdot hdots

/-- A segment that is no dot segment stays at the end. -/
theorem normalPath_append_segment {path : List Char} (hroot : Rooted path) :
    normalPath (path ++ '/' :: segment) = normalPath path ++ '/' :: segment := by
  rw [normalPath_append, Text.splitOn_of_not_mem hslash, resolveDots, if_neg hdot, if_neg hdots,
    resolveDots, List.reverse_cons, List.reverse_reverse,
    joinSegments_concat hroot.resolveDots_ne_nil, normalPath]

/-- Going up takes the segment before away. -/
theorem normalPath_append_up (hne : segment ≠ []) (path : List Char) :
    normalPath (path ++ '/' :: (segment ++ ['/', '.', '.'])) = normalPath path := by
  have hsplit : Text.splitOn '/' (segment ++ ['/', '.', '.']) = [segment, ['.', '.']] := by
    rw [Text.splitOn_append, Text.splitOn_of_not_mem hslash]
    rfl
  have hleft (taken : List (List Char)) : segment :: taken ≠ [[]] := by
    intro h
    exact hne (List.cons.inj h).1
  rw [normalPath_append, hsplit, resolveDots, if_neg hdot, if_neg hdots, resolveDots,
    if_neg (by decide), if_pos rfl, if_neg (hleft _), List.tail_cons, resolveDots,
    List.reverse_reverse, normalPath]

end

/-- Staying where one is leaves the path as it is. -/
theorem normalPath_append_dot (path : List Char) :
    normalPath (path ++ ['/', '.']) = normalPath path := by
  have hsplit : Text.splitOn '/' ['.'] = [['.']] := rfl
  rw [normalPath_append, hsplit, resolveDots, if_pos rfl, resolveDots, List.reverse_reverse,
    normalPath]

/-! ## The parts of a text -/

/-- The parts of a text that is a URL, as they stand in it. -/
structure Parts where
  /-- The scheme. -/
  scheme : List Char
  /-- User, host and port. -/
  authority : List Char
  /-- The path. -/
  path : List Char
  /-- The query, if there is one. -/
  query : Option (List Char)
  /-- The fragment, if there is one. -/
  fragment : Option (List Char)

namespace Parts

/-- The authority and the path of what stands between scheme and query. -/
def cutAuthority : List Char → List Char × List Char
  | '/' :: '/' :: rest => (rest.takeWhile (· != '/'), rest.dropWhile (· != '/'))
  | rest => ([], rest)

/-- The parts of a text. -/
def ofText (cs : List Char) : Parts :=
  let rest := (cutScheme cs).2
  let front := (Text.cutAt '#' rest).1
  let hierarchy := (Text.cutAt '?' front).1
  { scheme := (cutScheme cs).1
    authority := (cutAuthority hierarchy).1
    path := (cutAuthority hierarchy).2
    query := (Text.cutAt '?' front).2
    fragment := (Text.cutAt '#' rest).2 }

/-- The URL that has these parts. -/
def toUrl (p : Parts) : Except Fault Url := do
  let scheme := String.ofList p.scheme
  let (userInfo, host, port) ← readAuthority scheme p.authority
  let isBare := scheme.isEmpty && userInfo.isEmpty && host.isEmpty && port.isNone
  let path ← readPath isBare p.path
  let query := p.query.map (encodePart querySafe)
  if scheme.isEmpty || host.isEmpty then
    let path := String.ofList ('/' :: path.toList.dropWhile (· == '/'))
    return { scheme := "", userInfo := "", host := "", port := none, path, query, fragment := none }
  else
    return { scheme := String.ofList (p.scheme.map Char.toLower), userInfo, host, port, path
             query, fragment := p.fragment.map (encodePart fragmentSafe) }

end Parts

/-- A text is a URL if it is short, has no control characters, and its parts are those of one. -/
theorem read_eq_ok_iff {s : String} {u : Url} :
    read s = .ok u ↔ s.toList.length ≤ lengthLimit ∧ findControl s.toList = none ∧
      (Parts.ofText s.toList).toUrl = .ok u := by
  rw [read]
  by_cases hlong : lengthLimit < s.toList.length
  · rw [if_pos hlong]
    constructor
    · intro h
      cases h
    · rintro ⟨hshort, -⟩
      omega
  · rw [if_neg hlong]
    cases hcontrol : findControl s.toList with
    | some found =>
      constructor
      · intro h
        cases h
      · rintro ⟨-, h, -⟩
        cases h
    | none =>
      constructor
      · intro h
        exact ⟨Nat.le_of_not_lt hlong, rfl, h⟩
      · rintro ⟨-, -, h⟩
        exact h

/-! ## One segment more -/

/-- What follows a text goes to the last of its parts. -/
def Parts.extend (p : Parts) (t : List Char) : Parts :=
  match p.fragment, p.query with
  | some fragment, _ => { p with fragment := some (fragment ++ t) }
  | none, some query => { p with query := some (query ++ t) }
  | none, none => { p with path := p.path ++ t }

theorem cutScheme_append {cs t : List Char} (ht : ':' ∉ t) :
    cutScheme (cs ++ t) = ((cutScheme cs).1, (cutScheme cs).2 ++ t) := by
  cases h : (Text.cutAt ':' cs).2 with
  | none =>
    have hcs : Text.cutAt ':' cs = (cs, none) := Prod.ext (Text.fst_cutAt_of_none h) h
    simp only [cutScheme, Text.cutAt_append_of_none h ht, hcs]
  | some rest =>
    have hcs : Text.cutAt ':' cs = ((Text.cutAt ':' cs).1, some rest) := Prod.ext rfl h
    simp only [cutScheme, Text.cutAt_append_of_some h]
    rw [hcs]
    simp only []
    split <;> rfl

theorem snd_cutScheme_suffix (cs : List Char) : (cutScheme cs).2 <:+ cs := by
  cases h : (Text.cutAt ':' cs).2 with
  | none =>
    have hcs : Text.cutAt ':' cs = (cs, none) := Prod.ext (Text.fst_cutAt_of_none h) h
    simp only [cutScheme, hcs]
    exact List.suffix_refl cs
  | some rest =>
    have hcs : Text.cutAt ':' cs = ((Text.cutAt ':' cs).1, some rest) := Prod.ext rfl h
    rw [cutScheme, hcs]
    simp only []
    split
    · exact ⟨(Text.cutAt ':' cs).1 ++ [':'], by simp [← Text.cutAt_of_some h]⟩
    · exact List.suffix_refl cs

theorem cutAuthority_of_ne {front : List Char} (h : ∀ rest, front ≠ '/' :: '/' :: rest) :
    Parts.cutAuthority front = ([], front) := by
  rw [Parts.cutAuthority]
  exact h

theorem cutAuthority_append {front t : List Char} (h : front ≠ ['/']) (ht : t.head? ≠ some '/') :
    Parts.cutAuthority (front ++ '/' :: t) =
      ((Parts.cutAuthority front).1, (Parts.cutAuthority front).2 ++ '/' :: t) := by
  by_cases hfront : ∃ rest, front = '/' :: '/' :: rest
  · obtain ⟨rest, rfl⟩ := hfront
    simp only [List.cons_append, Parts.cutAuthority]
    rw [Text.takeWhile_append_cons_of_neg _ (by simp),
      Text.dropWhile_append_cons_of_neg _ (by simp)]
  · have hne : ∀ rest, front ≠ '/' :: '/' :: rest := fun rest hrest => hfront ⟨rest, hrest⟩
    rw [cutAuthority_of_ne hne, cutAuthority_of_ne]
    intro rest hrest
    -- Two slashes in front are both of the text before, or else the slash between is one of them.
    match front with
    | [] =>
      cases hrest
      exact ht rfl
    | [c] =>
      cases hrest
      exact h rfl
    | c :: d :: front =>
      cases hrest
      exact hne front rfl

/-- Where there is an authority, the path is empty or begins at the root. -/
theorem Parts.rooted_of_authority {cs : List Char} (h : (ofText cs).authority ≠ []) :
    Rooted (ofText cs).path := by
  simp only [ofText] at h ⊢
  generalize (Text.cutAt '?' (Text.cutAt '#' (cutScheme cs).2).1).1 = hierarchy at h ⊢
  by_cases hfront : ∃ rest, hierarchy = '/' :: '/' :: rest
  · obtain ⟨rest, rfl⟩ := hfront
    have hhead := List.head?_dropWhile_not (· != '/') rest
    cases hpath : (rest.dropWhile (· != '/')).head? with
    | none => exact .inl (List.head?_eq_none_iff.1 hpath)
    | some c =>
      rw [hpath] at hhead
      have hc : c = '/' := by simpa using hhead
      rw [hc] at hpath
      exact .inr hpath
  · have hne : ∀ rest, hierarchy ≠ '/' :: '/' :: rest := fun rest hrest => hfront ⟨rest, hrest⟩
    rw [cutAuthority_of_ne hne] at h
    exact absurd rfl h

/-- What may follow a text behind a slash without making another part of it. -/
structure Follows (t : List Char) : Prop where
  slash : t.head? ≠ some '/'
  colon : ':' ∉ t
  hash : '#' ∉ t
  query : '?' ∉ t

/-- A text that does not end with a slash has the same parts with a slash and more behind it, except
for the last part, to which that goes. -/
theorem ofText_append {cs t : List Char} (hlast : cs.getLast? ≠ some '/') (ht : Follows t) :
    Parts.ofText (cs ++ '/' :: t) = (Parts.ofText cs).extend ('/' :: t) := by
  have hcolon : ':' ∉ '/' :: t := List.not_mem_cons_of_ne_of_not_mem (by decide) ht.colon
  have hhash : '#' ∉ '/' :: t := List.not_mem_cons_of_ne_of_not_mem (by decide) ht.hash
  have hquery : '?' ∉ '/' :: t := List.not_mem_cons_of_ne_of_not_mem (by decide) ht.query
  have hroot : (cutScheme cs).2 ≠ ['/'] := by
    intro h
    obtain ⟨pre, hpre⟩ := snd_cutScheme_suffix cs
    rw [h] at hpre
    exact hlast (by rw [← hpre, List.getLast?_concat])
  simp only [Parts.ofText, cutScheme_append hcolon]
  generalize (cutScheme cs).2 = rest at hroot ⊢
  cases hfragment : (Text.cutAt '#' rest).2 with
  | some fragment => simp only [Text.cutAt_append_of_some hfragment, Parts.extend]
  | none =>
    simp only [Text.cutAt_append_of_none hfragment hhash, Text.fst_cutAt_of_none hfragment]
    cases hq : (Text.cutAt '?' rest).2 with
    | some query => simp only [Text.cutAt_append_of_some hq, Parts.extend]
    | none =>
      simp only [Text.cutAt_append_of_none hq hquery, Text.fst_cutAt_of_none hq, Parts.extend,
        cutAuthority_append hroot ht.slash]

/-! ## URLs that tell a host -/

/-- The URL of parts that tell a host. -/
def Parts.absolute (p : Parts) (userInfo host : String) (port : Option Int) : Url where
  scheme := String.ofList (p.scheme.map Char.toLower)
  userInfo := userInfo
  host := host
  port := port
  path := encodePart pathSafe (normalPath p.path)
  query := p.query.map (encodePart querySafe)
  fragment := p.fragment.map (encodePart fragmentSafe)

section

variable {p : Parts} {userInfo host : String} {port : Option Int}

theorem Parts.toUrl_of_host
    (h : readAuthority (String.ofList p.scheme) p.authority = .ok (userInfo, host, port))
    (hscheme : (String.ofList p.scheme).isEmpty = false) (hhost : host.isEmpty = false) :
    p.toUrl = .ok (p.absolute userInfo host port) := by
  simp only [Parts.toUrl, h, hscheme, hhost, bind, Except.bind, readPath, Bool.false_and,
    Bool.not_false, if_true, Bool.or_false, Bool.false_eq_true, if_false]
  rfl

/-- Without a scheme or a host the URL is relative. -/
theorem Parts.isRelative_of_toUrl {u : Url}
    (h : readAuthority (String.ofList p.scheme) p.authority = .ok (userInfo, host, port))
    (hno : ((String.ofList p.scheme).isEmpty || host.isEmpty) = true) (hu : p.toUrl = .ok u) :
    u.isRelative = true := by
  obtain ⟨parts, hparts, hu⟩ := bind_eq_ok_iff.1 hu
  cases h.symm.trans hparts
  obtain ⟨path, -, hu⟩ := bind_eq_ok_iff.1 hu
  rw [if_pos hno] at hu
  cases pure_eq_ok_iff.1 hu
  rfl

theorem Parts.extend_scheme (p : Parts) (t : List Char) : (p.extend t).scheme = p.scheme := by
  rw [Parts.extend]
  split <;> rfl

theorem Parts.extend_authority (p : Parts) (t : List Char) :
    (p.extend t).authority = p.authority := by
  rw [Parts.extend]
  split <;> rfl

/-- Parts that are a URL that tells a host are one too without what follows the last of them. -/
theorem Parts.toUrl_extend {t : List Char} {v : Url} (hv : (p.extend t).toUrl = .ok v)
    (htold : v.isRelative = false) : p.authority ≠ [] ∧ ∃ userInfo host port,
      p.toUrl = .ok (p.absolute userInfo host port) ∧
        v = (p.extend t).absolute userInfo host port := by
  obtain ⟨⟨userInfo, host, port⟩, hparts, -⟩ := bind_eq_ok_iff.1 hv
  have hno : ((String.ofList (p.extend t).scheme).isEmpty || host.isEmpty) = false := by
    rw [← Bool.not_eq_true]
    intro hno
    rw [isRelative_of_toUrl hparts hno hv] at htold
    cases htold
  obtain ⟨hscheme, hhost⟩ := Bool.or_eq_false_iff.1 hno
  cases (toUrl_of_host hparts hscheme hhost).symm.trans hv
  -- Neither the scheme nor the authority is the last part, so the shorter text tells the same host.
  rw [extend_scheme, extend_authority] at hparts
  rw [extend_scheme] at hscheme
  have hauthority : p.authority ≠ [] := by
    intro hnil
    rw [hnil] at hparts
    cases hparts
    cases hhost
  exact ⟨hauthority, userInfo, host, port, toUrl_of_host hparts hscheme hhost, rfl⟩

end

theorem findControl_of_append {cs t : List Char} (h : findControl (cs ++ t) = none) :
    findControl cs = none := by
  rw [findControl, List.zipIdx_append, List.find?_append, Option.or_eq_none_iff] at h
  exact h.1

section

variable {s : String} {t : List Char} {v : Url} (hlast : s.toList.getLast? ≠ some '/')
  (ht : Follows t) (hv : read (s ++ String.ofList ('/' :: t)) = .ok v)
  (htold : v.isRelative = false)
include hlast ht hv htold

/-- A text that is a URL that tells a host is one too without what follows a slash in it, with the
same parts but for the last. -/
theorem read_append : ∃ p : Parts, Rooted p.path ∧ ∃ userInfo host port,
    read s = .ok (p.absolute userInfo host port) ∧
      v = (p.extend ('/' :: t)).absolute userInfo host port := by
  rw [read_eq_ok_iff, String.toList_append, String.toList_ofList] at hv
  obtain ⟨hlength, hcontrol, hv⟩ := hv
  rw [ofText_append hlast ht] at hv
  obtain ⟨hauthority, userInfo, host, port, hu, rfl⟩ := Parts.toUrl_extend hv htold
  have hshort : s.toList.length ≤ lengthLimit :=
    Nat.le_trans (List.sublist_append_left _ _).length_le hlength
  exact ⟨Parts.ofText s.toList, Parts.rooted_of_authority hauthority, userInfo, host, port,
    read_eq_ok_iff.2 ⟨hshort, findControl_of_append hcontrol, hu⟩, rfl⟩

/-- Where what follows leads back, it does not change a URL that ends with its path. -/
theorem read_of_append_back (hback : ∀ path, normalPath (path ++ '/' :: t) = normalPath path)
    (hquery : v.query = none) (hfragment : v.fragment = none) : read s = .ok v := by
  obtain ⟨p, -, userInfo, host, port, hu, rfl⟩ := read_append hlast ht hv htold
  obtain ⟨scheme, authority, path, query, fragment⟩ := p
  cases fragment with
  | some fragment => cases hfragment
  | none =>
    cases query with
    | some query => cases hquery
    | none => rw [hu, Parts.extend, Parts.absolute, Parts.absolute, hback]

end

/-! ## Encoded segments -/

open Text.Percent (isUnreserved encode encodeKeeping_append encodeKeeping_encode
  encodeKeeping_cons_of_ne encodeChar mem_encode)

theorem toNat_of_isUnreserved {c : Char} (h : isUnreserved c = true) :
    0x20 < c.toNat ∧ c.toNat < 0x7F := by
  simp only [isUnreserved, Bool.or_eq_true, beq_iff_eq] at h
  rcases h with (((h | rfl) | rfl) | rfl) | rfl
  · have hranges : (decide ('A'.val ≤ c.val ∧ c.val ≤ 'Z'.val)
        || ('a'.val ≤ c.val && c.val ≤ 'z'.val) || ('0'.val ≤ c.val && c.val ≤ '9'.val)) = true := h
    simp only [Bool.or_eq_true, Bool.and_eq_true, decide_eq_true_eq, UInt32.le_iff_toNat_le]
      at hranges
    rcases hranges with (hrange | hrange) | hrange <;>
      exact ⟨Nat.lt_of_lt_of_le (by decide) hrange.1, Nat.lt_of_le_of_lt hrange.2 (by decide)⟩
  all_goals decide

/-- The unreserved characters are safe wherever they are not excluded. -/
theorem printableExcept_of_isUnreserved {excluded : String}
    (h : excluded.toList.any isUnreserved = false) (c : Char)
    (hc : isUnreserved c = true) : printableExcept excluded c = true := by
  obtain ⟨hlow, hhigh⟩ := toNat_of_isUnreserved hc
  have hexcluded : c ∉ excluded.toList := by
    intro hmem
    exact List.any_eq_false.1 h c hmem hc
  simp [printableExcept, hlow, hhigh, hexcluded]

/-- An encoded segment stays as it is behind a part that is encoded. -/
theorem encodePart_append (safe : Char → Bool) (hslash : safe '/' = true)
    (h : ∀ c, isUnreserved c = true → safe c = true) (part id : List Char) :
    encodePart safe (part ++ '/' :: encode isUnreserved id) =
      encodePart safe part ++ String.ofList ('/' :: encode isUnreserved id) := by
  rw [encodePart, encodeKeeping_append (by decide), encodeKeeping_cons_of_ne (by decide),
    encodeKeeping_encode h, encodeChar, if_pos hslash, String.ofList_append]
  rfl

/-- No character that divides a URL stands in an encoded segment. -/
theorem not_mem_encode {c : Char} (hc : isUnreserved c = false) (hne : c ≠ '%')
    (id : List Char) : c ∉ encode isUnreserved id := by
  intro h
  rcases mem_encode h with h | h
  · rw [hc] at h
    cases h
  · exact hne h

theorem follows_encode (id : List Char) : Follows (encode isUnreserved id) := by
  constructor
  · intro h
    exact not_mem_encode (by decide) (by decide) id (List.mem_of_head? h)
  · exact not_mem_encode (by decide) (by decide) id
  · exact not_mem_encode (by decide) (by decide) id
  · exact not_mem_encode (by decide) (by decide) id

section

variable {id : List Char} (hdot : encode isUnreserved id ≠ ['.'])
  (hdots : encode isUnreserved id ≠ ['.', '.'])
include hdot hdots

/-- The text of a URL that tells a host goes on with the segment that goes to its last part. -/
theorem Parts.text_absolute_extend {p : Parts} (hroot : Rooted p.path)
    (userInfo host : String) (port : Option Int) :
    ((p.extend ('/' :: encode isUnreserved id)).absolute userInfo host port).text =
      (p.absolute userInfo host port).text ++ String.ofList ('/' :: encode isUnreserved id) := by
  have hpath := encodePart_append pathSafe (by decide)
    (printableExcept_of_isUnreserved rfl) (normalPath p.path) id
  have hquery := encodePart_append querySafe (by decide)
    (printableExcept_of_isUnreserved rfl)
  have hfragment := encodePart_append fragmentSafe (by decide)
    (printableExcept_of_isUnreserved rfl)
  have hslash : '/' ∉ encode isUnreserved id := not_mem_encode (by decide) (by decide) id
  rw [← normalPath_append_segment hslash hdot hdots hroot] at hpath
  obtain ⟨scheme, authority, path, query, fragment⟩ := p
  -- Who is called is the same on both sides.
  cases fragment with
  | some fragment =>
    simp only [Parts.extend, Parts.absolute, text, Option.map_some, hfragment, String.append_assoc]
    rfl
  | none =>
    cases query with
    | some query =>
      simp only [Parts.extend, Parts.absolute, text, Option.map_some, Option.map_none, hquery,
        String.append_assoc, String.append_empty]
      rfl
    | none =>
      simp only [Parts.extend, Parts.absolute, text, Option.map_none, hpath, String.append_assoc,
        String.append_empty]
      rfl

/-- If a text that ends with an encoded segment is a URL that tells a host, then the text before is
a URL too, and the segment stands in the URL behind it. -/
theorem read_append_segment {s : String} {v : Url} (hlast : s.toList.getLast? ≠ some '/')
    (hv : read (s ++ String.ofList ('/' :: encode isUnreserved id)) = .ok v)
    (htold : v.isRelative = false) :
    ∃ u, read s = .ok u ∧ v.text = u.text ++ String.ofList ('/' :: encode isUnreserved id) := by
  obtain ⟨p, hroot, userInfo, host, port, hu, rfl⟩ :=
    read_append hlast (follows_encode id) hv htold
  exact ⟨_, hu, Parts.text_absolute_extend hdot hdots hroot userInfo host port⟩

end

end Http.Url

end Automation
