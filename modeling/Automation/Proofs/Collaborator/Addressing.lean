import Automation.Collaborator.CustomerService
import Automation.Http.Exchange
import Automation.Proofs.Http.Segments
import Automation.Proofs.Text.Percent
import Automation.Proofs.Text.Trim

/-!
# Addresses of customers

An update of a customer is one request, to an address that tells this customer: the segment that
ends it has no character that divides a URL, is read back as the identifier, and differs for
different identifiers.

A request goes to the URL that its address is read as, and reading resolves dot segments.  The full
stop needs no encoding, so the segments of `.` and `..` are such: the request for the one goes to
the customers, the request for the other to the service itself.  For all other identifiers it goes
one segment below the customers (`update_addresses`).
-/

namespace Automation

namespace Text

theorem trimEnd_eq_rdropWhile (closing : Char) (cs : List Char) :
    trimEnd closing cs = cs.rdropWhile (· == closing) := rfl

theorem getLast?_trimEnd (closing : Char) (cs : List Char) :
    (trimEnd closing cs).getLast? ≠ some closing := by
  intro h
  obtain ⟨hne, hlast⟩ := List.mem_getLast?_eq_getLast h
  have hnot := List.rdropWhile_last_not (· == closing) cs hne
  exact hnot (beq_iff_eq.2 hlast.symm)

theorem trimEnd_ne_nil {closing : Char} {cs : List Char} (h : ∃ c ∈ cs, c ≠ closing) :
    trimEnd closing cs ≠ [] := by
  obtain ⟨c, hc, hne⟩ := h
  rw [trimEnd_eq_rdropWhile, ne_eq, List.rdropWhile_eq_nil_iff]
  intro hall
  exact hne (beq_iff_eq.1 (hall c hc))

end Text

namespace Http

/-- The request of an exchange goes by the method to the URL that the address is read as. -/
theorem exchange_sent {url method : String} {headers : List (String × String)} {body : Value}
    {timeout : Number} {answer : Answer} {r : Request}
    (h : (exchange url method headers body timeout answer).sent = some r) :
    r.method = Text.upper method ∧
      ∃ v, Url.read url = .ok v ∧ r.url = v.text ∧ r.isRelative = v.isRelative := by
  rw [exchange] at h
  cases hrequest : request url method headers body with
  | error f =>
    rw [hrequest] at h
    cases h
  | ok r' =>
    have hr : r' = r := by
      rw [hrequest] at h
      simp only [] at h
      split at h <;> exact Option.some.inj h
    subst hr
    rw [request] at hrequest
    obtain ⟨v, hv, hrequest⟩ := bind_eq_ok_iff.1 hrequest
    obtain ⟨_, -, hrequest⟩ := bind_eq_ok_iff.1 hrequest
    obtain ⟨_, -, hrequest⟩ := bind_eq_ok_iff.1 hrequest
    obtain ⟨_, -, hrequest⟩ := bind_eq_ok_iff.1 hrequest
    cases pure_eq_ok_iff.1 hrequest
    exact ⟨rfl, v, hv, rfl, rfl⟩

/-- A host that is a name in ASCII is called at the usual port by this name. -/
theorem checkAscii_address {u : Url} (hname : ':' ∉ u.host.toList) (hport : u.port = none)
    (hascii : u.host.toList.all isAscii = true) : checkAscii u.address = .ok u.host := by
  have haddress : u.address = u.host := by
    simp [Url.address, hport, hname]
  rw [haddress, checkAscii, if_pos hascii]

/-- A request is sent if the URL, the headers and the body have a form, and the host is ASCII. -/
theorem exchange_sends {url method : String} {headers readable : List (String × String)}
    {body : Value} {u : Url} {content : String × Bool} {host : String}
    (hread : Url.read url = .ok u) (hheaders : readHeaders headers = .ok readable)
    (hbody : contentOf body = .ok content) (hhost : checkAscii u.address = .ok host)
    (timeout : Number) (answer : Answer) :
    ∃ r, (exchange url method headers body timeout answer).sent = some r ∧ r.url = u.text ∧
      r.isRelative = u.isRelative := by
  obtain ⟨r, hrequest, hurl, htold⟩ : ∃ r, request url method headers body = .ok r ∧
      r.url = u.text ∧ r.isRelative = u.isRelative := by
    rw [request, hread]
    simp only [bind, Except.bind, hheaders, hbody]
    rw [hhost]
    exact ⟨_, rfl, rfl, rfl⟩
  refine ⟨r, ?_, hurl, htold⟩
  rw [exchange, hrequest]
  simp only []
  split <;> rfl

end Http

namespace CustomerService

open Http (Url)
open Text.Percent (isUnreserved encode decode decode_encode encode_injective)

/-! ## Segments -/

theorem toList_segment (id : String) : (segment id).toList = encode isUnreserved id.toList :=
  String.toList_ofList

theorem segment_injective : Function.Injective segment := by
  intro id id' h
  have hlists := congrArg String.toList h
  rw [toList_segment, toList_segment] at hlists
  exact String.toList_inj.1 (encode_injective (by decide) hlists)

theorem segment_eq_dot_iff {id : String} : segment id = "." ↔ id = "." := by
  have hdot : segment "." = "." := by decide
  constructor
  · intro h
    exact segment_injective (h.trans hdot.symm)
  · rintro rfl
    exact hdot

theorem segment_eq_dots_iff {id : String} : segment id = ".." ↔ id = ".." := by
  have hdots : segment ".." = ".." := by decide
  constructor
  · intro h
    exact segment_injective (h.trans hdots.symm)
  · rintro rfl
    exact hdots

/-- No character that divides a URL stands in a segment. -/
theorem undivided_segment {id : String} {c : Char} (hc : c ∈ (segment id).toList) :
    c ≠ '/' ∧ c ≠ '?' ∧ c ≠ '#' := by
  rw [toList_segment] at hc
  refine ⟨?_, ?_, ?_⟩
  all_goals
    rintro rfl
    exact Url.not_mem_encode (by decide) (by decide) id.toList hc

/-! ## The request -/

/-- A service that has an address is called once, whatever comes of the call. -/
theorem updateWith_calls {s : CustomerService} (h : s.address ≠ "") (id : String)
    (fields : Mapping) (status : Int) (fails : Option Failure) :
    (s.updateWith id fields status fails).2 =
      [.http (s.customerUrl id) "PATCH" s.headers (.mapping fields) s.timeout] := by
  have hcall : s.update id fields =
      .ok (.http (s.customerUrl id) "PATCH" s.headers (.mapping fields) s.timeout) := by
    rw [update, if_neg (by simpa using h)]
  cases fails with
  | none => simp only [updateWith, hcall]
  | some f => simp only [updateWith, hcall]

theorem customerUrl_injective (s : CustomerService) : Function.Injective s.customerUrl := by
  intro id id' h
  rw [customerUrl, customerUrl] at h
  exact segment_injective ((String.append_right_inj _).1 h)

/-! ## Where an address leads -/

section

variable {s : CustomerService} {v : Url}

theorem customerUrl_eq (s : CustomerService) (id : String) :
    s.customerUrl id =
      s.address ++ "/customers" ++ String.ofList ('/' :: encode isUnreserved id.toList) := by
  rw [customerUrl, ← String.toList_inj]
  simp [toList_segment]

theorem getLast?_customers (address : String) :
    (address ++ "/customers").toList.getLast? ≠ some '/' := by
  simp

/-- The address of a customer leads one segment below the customers, unless it ends with a dot
segment. -/
theorem read_customerUrl {id : String} (hdot : id ≠ ".") (hdots : id ≠ "..")
    (hv : Url.read (s.customerUrl id) = .ok v) (htold : v.isRelative = false) :
    ∃ u, Url.read (s.address ++ "/customers") = .ok u ∧ v.text = u.text ++ "/" ++ segment id := by
  have hdot' : encode isUnreserved id.toList ≠ ['.'] := by
    intro h
    exact hdot (segment_eq_dot_iff.1 (congrArg String.ofList h))
  have hdots' : encode isUnreserved id.toList ≠ ['.', '.'] := by
    intro h
    exact hdots (segment_eq_dots_iff.1 (congrArg String.ofList h))
  rw [customerUrl_eq] at hv
  obtain ⟨u, hu, htext⟩ :=
    Url.read_append_segment hdot' hdots' (getLast?_customers s.address) hv htold
  refine ⟨u, hu, ?_⟩
  rw [htext, ← String.toList_inj]
  simp [toList_segment]

/-- The address of the customer `.` leads to all customers. -/
theorem read_customerUrl_dot (hv : Url.read (s.customerUrl ".") = .ok v)
    (htold : v.isRelative = false) (hquery : v.query = none) (hfragment : v.fragment = none) :
    Url.read (s.address ++ "/customers") = .ok v := by
  rw [customerUrl_eq] at hv
  exact Url.read_of_append_back (getLast?_customers s.address) (Url.follows_encode _) hv htold
    Url.normalPath_append_dot hquery hfragment

/-- The address of the customer `..` leads to the service itself. -/
theorem read_customerUrl_dots (hlast : s.address.toList.getLast? ≠ some '/')
    (hv : Url.read (s.customerUrl "..") = .ok v) (htold : v.isRelative = false)
    (hquery : v.query = none) (hfragment : v.fragment = none) :
    Url.read s.address = .ok v := by
  have hurl : s.customerUrl ".." =
      s.address ++ String.ofList ('/' :: ("customers".toList ++ ['/', '.', '.'])) := by
    rw [customerUrl, ← String.toList_inj, String.append_assoc]
    rfl
  rw [hurl] at hv
  have hfollows : Url.Follows ("customers".toList ++ ['/', '.', '.']) := by
    constructor <;> decide
  exact Url.read_of_append_back hlast hfollows hv htold
    (Url.normalPath_append_up (by decide) (by decide) (by decide) (by decide)) hquery hfragment

end

/-- Where the address of a customer of the service at `stem` leads: one segment below the customers;
but for `.` to the customers and for `..` to the service itself, if neither a query nor a fragment
stands behind the path. -/
structure Leads (stem id : String) (v : Url) : Prop where
  below : id ≠ "." → id ≠ ".." →
    ∃ u, Url.read (stem ++ "/customers") = .ok u ∧ v.text = u.text ++ "/" ++ segment id
  customers : id = "." → v.query = none → v.fragment = none →
    Url.read (stem ++ "/customers") = .ok v
  service : id = ".." → v.query = none → v.fragment = none → Url.read stem = .ok v

theorem leads_of_read {s : CustomerService} (hlast : s.address.toList.getLast? ≠ some '/')
    {id : String} {v : Url} (hv : Url.read (s.customerUrl id) = .ok v)
    (htold : v.isRelative = false) : Leads s.address id v where
  below hdot hdots := read_customerUrl hdot hdots hv htold
  customers hdot := by
    subst hdot
    exact read_customerUrl_dot hv htold
  service hdots := by
    subst hdots
    exact read_customerUrl_dots hlast hv htold

/-- An update of a customer of a service that has an address is one request to the segment of this
customer below the customers.  The segment has no character that divides a URL and is read back as
the identifier, so that no two customers have one address; it is a dot segment for `.` and for `..`
and for no other.  What is sent to a host goes below the customers for all others, to the customers
for `.`, and to the service itself for `..`. -/
theorem update_addresses {base : String} (hbase : ∃ c ∈ base.toList, c ≠ '/')
    (token : Option String) (timeout : Number) (id : String) :
    let s := connect (some base) token timeout
    let stem := String.ofList (Text.trimEnd '/' base.toList)
    (∀ fields status fails, (s.updateWith id fields status fails).2 =
        [.http (stem ++ "/customers/" ++ segment id) "PATCH" s.headers (.mapping fields)
          timeout]) ∧
      (∀ c ∈ (segment id).toList, c ≠ '/' ∧ c ≠ '?' ∧ c ≠ '#') ∧
      String.ofList (decode (segment id).toList) = id ∧
      (∀ id', s.customerUrl id' = s.customerUrl id → id' = id) ∧
      (segment id = "." ↔ id = ".") ∧ (segment id = ".." ↔ id = "..") ∧
      ∀ fields answer r, (Http.exchange (s.customerUrl id) "PATCH" s.headers (.mapping fields)
          timeout answer).sent = some r → r.isRelative = false →
        r.method = "PATCH" ∧ ∃ v, r.url = v.text ∧ Leads stem id v := by
  intro s stem
  have hconfigured : s.address ≠ "" := by
    intro h
    exact Text.trimEnd_ne_nil hbase (String.ofList_eq_empty_iff.1 h)
  have hlast : s.address.toList.getLast? ≠ some '/' := by
    have haddress : s.address.toList = Text.trimEnd '/' base.toList := String.toList_ofList
    rw [haddress]
    exact Text.getLast?_trimEnd '/' base.toList
  refine ⟨updateWith_calls hconfigured id, fun c hc => undivided_segment hc, ?_,
    fun id' h => s.customerUrl_injective h, segment_eq_dot_iff, segment_eq_dots_iff, ?_⟩
  · rw [toList_segment, decode_encode (by decide), String.ofList_toList]
  · intro fields answer r hsent htold
    obtain ⟨hmethod, v, hv, hurl, htold'⟩ := Http.exchange_sent hsent
    rw [htold'] at htold
    exact ⟨hmethod, v, hurl, leads_of_read hlast hv htold⟩

theorem update_addresses_slash :
    let s := connect (some "https://b.test/api/") none (.int 10)
    (∃ c ∈ "https://b.test/api/".toList, c ≠ '/') ∧
      (s.updateWith "cus/1" [] 200 none).2 = [.http "https://b.test/api/customers/cus%2F1" "PATCH"
        s.headers (.mapping []) (.int 10)] ∧
      ∃ r, (Http.exchange (s.customerUrl "cus/1") "PATCH" s.headers (.mapping []) (.int 10)
          {}).sent = some r ∧ r.isRelative = false ∧ r.method = "PATCH" ∧
        ∃ u, Url.read "https://b.test/api/customers" = .ok u ∧
          r.url = u.text ++ "/" ++ "cus%2F1" := by
  intro s
  have hbase : ∃ c ∈ "https://b.test/api/".toList, c ≠ '/' := ⟨'h', by decide, by decide⟩
  obtain ⟨hcalls, -, -, -, -, -, hleads⟩ := update_addresses hbase none (.int 10) "cus/1"
  have hread : Url.read "https://b.test/api/customers/cus%2F1" =
      .ok ⟨"https", "", "b.test", none, "/api/customers/cus%2F1", none, none⟩ := rfl
  obtain ⟨r, hsent, -, htold⟩ :
      ∃ r, (Http.exchange (s.customerUrl "cus/1") "PATCH" s.headers (.mapping []) (.int 10)
        {}).sent = some r ∧ _ :=
    Http.exchange_sends hread rfl rfl (Http.checkAscii_address (by decide) rfl rfl) (.int 10) {}
  obtain ⟨hmethod, v, hurl, hv⟩ := hleads [] {} r hsent htold
  obtain ⟨u, hu, htext⟩ := hv.below (by decide) (by decide)
  have hsegment : segment "cus/1" = "cus%2F1" := rfl
  rw [hsegment] at htext
  exact ⟨hbase, hcalls [] 200 none, r, hsent, htold, hmethod, u, hu, hurl.trans htext⟩

/-- Two full stops are a proper identifier, and a dot segment. -/
theorem update_leaves_customers :
    let s := connect (some "https://b.test/api") none (.int 10)
    Text.Proper ".." ∧
      (s.updateWith ".." [] 200 none).2 = [.http "https://b.test/api/customers/.." "PATCH"
        s.headers (.mapping []) (.int 10)] ∧
      ∃ r, (Http.exchange (s.customerUrl "..") "PATCH" s.headers (.mapping []) (.int 10)
          {}).sent = some r ∧ r.method = "PATCH" ∧ r.url = "https://b.test/api" := by
  intro s
  have hread : Url.read "https://b.test/api/customers/.." =
      .ok ⟨"https", "", "b.test", none, "/api", none, none⟩ := rfl
  obtain ⟨r, hsent, hurl, -⟩ :
      ∃ r, (Http.exchange (s.customerUrl "..") "PATCH" s.headers (.mapping []) (.int 10)
        {}).sent = some r ∧ _ :=
    Http.exchange_sends hread rfl rfl (Http.checkAscii_address (by decide) rfl rfl) (.int 10) {}
  refine ⟨⟨by decide, by decide⟩, rfl, r, hsent, (Http.exchange_sent hsent).1, ?_⟩
  rw [hurl]
  simp [Url.text, Url.authority, Url.address]

end CustomerService

end Automation
