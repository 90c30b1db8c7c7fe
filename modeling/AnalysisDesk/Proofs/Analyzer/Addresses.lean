/-
Where a handle leads.

The analyzer keeps a job at the address that ends with its handle.  An address is split at its
marks: the path ends at the first `?` or `#`, and its segments are separated by `/`.  The handle
stands in the address as it is, so the marks in it are marks of the address.  It is a segment of
its own exactly if it has none of them, and the segment is read as the handle exactly if no percent
sign in it is followed by two hexadecimal digits.

Any other handle leads elsewhere: to what lies below the job, or to another job.  When the address
is carried out, the pieces `.` and `..` count as well, and what cannot stand in a path gets percent
signs; a handle with none of that is the last piece of the path that is asked for.
-/
import AnalysisDesk.Analyzer.Client
import AnalysisDesk.Proofs.Web.Below
import Mathlib.Data.List.TakeWhile

namespace AnalysisDesk

namespace Text

/-! ### Percent signs -/

/-- A percent sign with two digits after it, somewhere. -/
inductive HasEscape : List UInt8 → Prop
  | here {high low : UInt8} (after : List UInt8) (hhigh : (hexValue? high).isSome)
      (hlow : (hexValue? low).isSome) : HasEscape (0x25 :: high :: low :: after)
  | later (b : UInt8) {bs : List UInt8} (h : HasEscape bs) : HasEscape (b :: bs)

/-- Where none begins at the first byte, what matters is the rest. -/
theorem hasEscape_cons_iff {b : UInt8} {bs : List UInt8}
    (h : ∀ high low after, b = 0x25 → bs = high :: low :: after → (hexValue? high).isSome →
      (hexValue? low).isSome → False) : HasEscape (b :: bs) ↔ HasEscape bs := by
  constructor
  · intro hescape
    cases hescape with
    | here after hhigh hlow => exact (h _ _ after rfl rfl hhigh hlow).elim
    | later _ hescape => exact hescape
  · exact .later b

theorem length_percentDecoded_le (bs : List UInt8) : (percentDecoded bs).length ≤ bs.length := by
  induction bs using percentDecoded.induct <;> grind [percentDecoded]

/-- **What is read as it is written** has no percent sign with two digits after it. -/
theorem percentDecoded_eq_self_iff {bs : List UInt8} : percentDecoded bs = bs ↔ ¬HasEscape bs := by
  induction bs using percentDecoded.induct with
  | case1 => exact ⟨fun _ => nofun, fun _ => rfl⟩
  | case2 high low rest _ _ hlow hhigh _ =>
      -- three bytes have become one
      have hlength := length_percentDecoded_le rest
      have hescape : HasEscape (0x25 :: high :: low :: rest) :=
        .here rest (by simp [hhigh]) (by simp [hlow])
      simp only [hescape, not_true_eq_false, iff_false]
      intro h
      have := congrArg List.length h
      simp [percentDecoded, hhigh, hlow] at this
      omega
  | case3 high low rest hnone ih =>
      have hdecoded : percentDecoded (0x25 :: high :: low :: rest) =
          0x25 :: percentDecoded (high :: low :: rest) := by
        rw [percentDecoded, if_pos rfl]
        split
        next hhigh hlow => exact (hnone _ _ hhigh hlow).elim
        next => rfl
      rw [hdecoded, hasEscape_cons_iff, ← ih, List.cons_inj_right]
      intro high' low' _ _ heq hhigh hlow
      cases heq
      exact hnone _ _ (Option.some_get hhigh).symm (Option.some_get hlow).symm
  | case4 b high low rest hb ih =>
      rw [hasEscape_cons_iff fun _ _ _ h => absurd h hb, ← ih, percentDecoded, if_neg hb,
        List.cons_inj_right]
  | case5 b rest hshort ih =>
      rw [hasEscape_cons_iff fun high low after _ h => (hshort high low after h).elim, ← ih,
        percentDecoded, List.cons_inj_right]
      exact hshort

end Text

/-! ### The parts of an address -/

/-- An address, split at its marks. -/
structure AddressParts where
  /-- What stands between the slashes of the path, and before the first one. -/
  segments : List (List Char)
  /-- What follows the first `?`, unless that belongs to the fragment. -/
  query : Option (List Char)
  /-- What follows the first `#`. -/
  fragment : Option (List Char)
deriving DecidableEq, Repr

namespace AddressParts

/-- Whether a character ends the path. -/
def endsPath (c : Char) : Bool := c = '?' || c = '#'

theorem endsPath_of_any {cs : List Char} (h : cs.any endsPath = false) :
    ∀ c ∈ cs, endsPath c = false := by
  simpa using h

/-- What follows the first `#` of a row. -/
def fragmentOf (cs : List Char) : Option (List Char) :=
  match cs.dropWhile (· != '#') with
  | [] => none
  | _ :: rest => some rest

/-- Splits an address. -/
def ofChars (cs : List Char) : AddressParts where
  segments := Text.cutAt '/' (cs.takeWhile (!endsPath ·))
  query := match cs.dropWhile (!endsPath ·) with
    | '?' :: rest => some (rest.takeWhile (· != '#'))
    | _ => none
  fragment := fragmentOf cs

/-- An address without marks that end the path is its path. -/
theorem ofChars_eq_path {cs : List Char} (h : ∀ c ∈ cs, endsPath c = false) :
    ofChars cs = ⟨Text.cutAt '/' cs, none, none⟩ := by
  have htake : cs.takeWhile (!endsPath ·) = cs :=
    List.takeWhile_eq_self_iff.mpr fun c hc => by simp [h c hc]
  have hdrop : cs.dropWhile (!endsPath ·) = [] :=
    List.dropWhile_eq_nil_iff.mpr fun c hc => by simp [h c hc]
  have hfragment : cs.dropWhile (· != '#') = [] :=
    List.dropWhile_eq_nil_iff.mpr fun c hc => by
      have := h c hc
      simp_all [endsPath]
  simp only [ofChars, fragmentOf, htake, hdrop, hfragment]

/-- An address without query and fragment has no mark that ends its path. -/
theorem endsPath_eq_false {cs : List Char} (hquery : (ofChars cs).query = none)
    (hfragment : (ofChars cs).fragment = none) : ∀ c ∈ cs, endsPath c = false := by
  have hsharp : ∀ c ∈ cs, c ≠ '#' := by
    simp only [ofChars, fragmentOf] at hfragment
    split at hfragment
    next hnil => simpa using List.dropWhile_eq_nil_iff.mp hnil
    next => exact nomatch hfragment
  have hnil : cs.dropWhile (!endsPath ·) = [] := by
    by_contra hne
    obtain ⟨first, rest, hdrop⟩ := List.exists_cons_of_ne_nil hne
    have hmem : first ∈ cs := (List.dropWhile_sublist _).subset (hdrop ▸ List.mem_cons_self)
    have hfirst : first = '?' ∨ first = '#' := by
      have hhead := List.head?_dropWhile_not (!endsPath ·) cs
      rw [hdrop] at hhead
      simpa [endsPath, or_iff_not_imp_left] using hhead
    rcases hfirst with rfl | rfl
    · simp [ofChars, hdrop] at hquery
    · exact hsharp '#' hmem rfl
  simpa using List.dropWhile_eq_nil_iff.mp hnil

/-- What is put at the end of a path, after a slash, is split as if it stood alone. -/
theorem ofChars_append {front : List Char} (h : ∀ c ∈ front, endsPath c = false)
    (back : List Char) :
    ofChars (front ++ '/' :: back) =
      { ofChars back with segments := Text.cutAt '/' front ++ (ofChars back).segments } := by
  have hfront : ∀ c ∈ front, (!endsPath c) = true := by simpa using h
  have hsharp : ∀ c ∈ front, (c != '#') = true := fun c hc => by
    have := h c hc
    simp_all [endsPath]
  have hfragment : fragmentOf (front ++ '/' :: back) = fragmentOf back := by
    unfold fragmentOf
    rw [List.dropWhile_append_of_pos hsharp, List.dropWhile_cons_of_pos (by decide)]
  simp only [ofChars, hfragment]
  rw [List.takeWhile_append_of_pos hfront, List.takeWhile_cons_of_pos (by decide),
    Text.cutAt_append, List.dropWhile_append_of_pos hfront,
    List.dropWhile_cons_of_pos (by decide)]

end AddressParts

namespace AnalyzerClient

/-- An address that is the one of a handle: below the analyzer's address, the path has four
segments of which the last is read as the handle, and nothing follows the path. -/
def IsAddressOf (c : AnalyzerClient) (handle url : String) : Prop :=
  ∃ segment : String, AddressParts.ofChars url.toList =
      ⟨Text.cutAt '/' c.base.toList ++
        ["api".toList, "v1".toList, "analyze".toList, segment.toList], none, none⟩ ∧
    Text.percentDecoded (Text.bytes segment) = Text.bytes handle

/-- A handle that is a segment of its own, and read as it is. -/
structure IsPlain (handle : String) : Prop where
  noSlash : '/' ∉ handle.toList
  noEnd : ∀ c ∈ handle.toList, AddressParts.endsPath c = false
  noEscape : ¬Text.HasEscape (Text.bytes handle)

/-- The address of a job is split like the analyzer's address, and then like the handle. -/
theorem jobUrl_parts {c : AnalyzerClient}
    (hbase : ∀ d ∈ c.base.toList, AddressParts.endsPath d = false) (handle : String) :
    AddressParts.ofChars (c.jobUrl handle).toList =
      { AddressParts.ofChars handle.toList with
        segments := Text.cutAt '/' c.base.toList ++
          ["api".toList, "v1".toList, "analyze".toList] ++
          (AddressParts.ofChars handle.toList).segments } := by
  have hroute : "/api/v1/analyze".toList =
      '/' :: ("api".toList ++ '/' :: ("v1".toList ++ '/' :: "analyze".toList)) := by rfl
  have hcut : Text.cutAt '/' (c.base ++ "/api/v1/analyze").toList =
      Text.cutAt '/' c.base.toList ++ ["api".toList, "v1".toList, "analyze".toList] := by
    rw [String.toList_append, hroute, Text.cutAt_append, Text.cutAt_append, Text.cutAt_append]
    rfl
  have hfront : ∀ d ∈ (c.base ++ "/api/v1/analyze").toList, AddressParts.endsPath d = false := by
    rw [String.toList_append]
    intro d hd
    rcases List.mem_append.mp hd with hd | hd
    · exact hbase d hd
    · exact AddressParts.endsPath_of_any (by decide) d hd
  have hurl : (c.jobUrl handle).toList =
      (c.base ++ "/api/v1/analyze").toList ++ '/' :: handle.toList := by
    simp [jobUrl, jobsUrl]
  rw [hurl, AddressParts.ofChars_append hfront, hcut]

/-- A plain handle is split into itself, and no other handle is split into one piece without
query and fragment that is read as the handle. -/
theorem isAddressOf_jobUrl_iff {c : AnalyzerClient}
    (hbase : ∀ d ∈ c.base.toList, AddressParts.endsPath d = false) (handle : String) :
    c.IsAddressOf handle (c.jobUrl handle) ↔ IsPlain handle := by
  unfold IsAddressOf
  rw [jobUrl_parts hbase]
  constructor
  · rintro ⟨segment, hparts, hdecoded⟩
    obtain ⟨hsegments, hquery, hfragment⟩ := AddressParts.mk.inj hparts
    have hends := AddressParts.endsPath_eq_false hquery hfragment
    have hsegment : Text.cutAt '/' handle.toList = [segment.toList] := by
      simpa [AddressParts.ofChars_eq_path hends] using hsegments
    obtain ⟨hslash, heq⟩ := Text.cutAt_eq_singleton_iff.mp hsegment
    obtain rfl := String.toList_inj.mp heq
    exact ⟨hslash, hends, Text.percentDecoded_eq_self_iff.mp hdecoded⟩
  · rintro ⟨hslash, hends, hescape⟩
    refine ⟨handle, ?_, Text.percentDecoded_eq_self_iff.mpr hescape⟩
    rw [AddressParts.ofChars_eq_path hends, Text.cutAt_eq_singleton_iff.mpr ⟨hslash, rfl⟩]
    simp

/-- Slashes at the end are all that the client drops of the analyzer's address. -/
theorem ofUrl_base_subset (url : String) : (ofUrl url).base.toList ⊆ url.toList := by
  intro d hd
  simp only [ofUrl, String.toList_ofList, Text.dropEndWhile, List.mem_reverse] at hd
  exact List.mem_reverse.mp ((List.dropWhile_sublist _).subset hd)

/-- Below the address at which jobs are handed over, a handle is one more piece of the path exactly
if it stands in a path as it is. -/
theorem ofText?_jobUrl_iff {c : AnalyzerClient}
    (hbase : ∀ d ∈ c.base.toList, AddressParts.endsPath d = false) {a : WebAddress}
    (ha : WebAddress.ofText? c.jobsUrl = some a) (handle : String) :
    WebAddress.ofText? (c.jobUrl handle) = some { a with path := a.path ++ [handle] } ↔
      WebAddress.StandsAsIs handle := by
  have hjobs : c.jobsUrl = c.base ++ "/api/v1" ++ "/" ++ "analyze" := by
    simp only [jobsUrl, String.append_assoc]
    rfl
  have hfront : WebAddress.LeadsDown (c.base ++ "/api/v1") := by
    constructor
    · simp only [String.toList_append]
      have hroute : ∀ d ∈ "/api/v1".toList, AddressParts.endsPath d = false :=
        AddressParts.endsPath_of_any (by decide)
      intro d hd
      have hends : AddressParts.endsPath d = false :=
        (List.mem_append.mp hd).elim (hbase d) (hroute d)
      simpa [AddressParts.endsPath] using hends
    · exact ⟨'1', by simp, ⟨by decide, by decide⟩, by decide⟩
  have hname : WebAddress.StandsAsIs "analyze" := by decide
  rw [hjobs] at ha
  rw [jobUrl, hjobs]
  exact WebAddress.ofText?_below_iff hfront hname (by decide) ha handle

/-- **Where a handle leads.**  For an analyzer whose address has no query and no fragment, the
address that is asked and the one that is dropped are the same; it is split like the analyzer's,
then into the route, and then like the handle itself.  So it is the address of the handle exactly
if the handle has no marks.  When it is carried out, the handle is one more piece below the
address at which jobs are handed over exactly if it stands in a path as it is. -/
theorem address_of_plain_handle (url : String)
    (hurl : ∀ d ∈ url.toList, AddressParts.endsPath d = false) (handle : String) :
    let c := ofUrl url
    (c.withdrawal handle).url = (c.question handle).url ∧
      AddressParts.ofChars (c.question handle).url.toList =
        { AddressParts.ofChars handle.toList with
          segments := Text.cutAt '/' c.base.toList ++
            ["api".toList, "v1".toList, "analyze".toList] ++
            (AddressParts.ofChars handle.toList).segments } ∧
      (c.IsAddressOf handle (c.question handle).url ↔ IsPlain handle) ∧
      ∀ a, WebAddress.ofText? c.jobsUrl = some a →
        (WebAddress.ofText? (c.question handle).url =
            some { a with path := a.path ++ [handle] } ↔ WebAddress.StandsAsIs handle) := by
  have hbase : ∀ d ∈ (ofUrl url).base.toList, AddressParts.endsPath d = false := fun d hd =>
    hurl d (ofUrl_base_subset url hd)
  exact ⟨rfl, jobUrl_parts hbase handle, isAddressOf_jobUrl_iff hbase handle,
    fun a ha => ofText?_jobUrl_iff hbase ha handle⟩

/-- A handle of letters, digits and dashes leads to its own address. -/
theorem address_of_plain_handle_dashed :
    let c := ofUrl "http://localhost:8000/"
    c.IsAddressOf "ext-42" (c.question "ext-42").url ∧
      WebAddress.ofText? (c.question "ext-42").url =
        some ⟨false, "localhost", some 8000, ["api", "v1", "analyze", "ext-42"], none⟩ := by
  intro c
  have hjobs : WebAddress.ofText? c.jobsUrl =
      some ⟨false, "localhost", some 8000, ["api", "v1", "analyze"], none⟩ := by decide +kernel
  obtain ⟨-, -, haddress, hcarried⟩ := address_of_plain_handle "http://localhost:8000/"
    (AddressParts.endsPath_of_any (by decide)) "ext-42"
  refine ⟨haddress.mpr ?_, (hcarried _ hjobs).mpr ?_⟩
  · exact ⟨by decide, AddressParts.endsPath_of_any (by decide),
      Text.percentDecoded_eq_self_iff.mp (by decide +kernel)⟩
  · decide

/-- Not so a handle with slashes, which the analyzer may well answer with: who drops this job
drops another. -/
theorem handle_may_lead_elsewhere :
    let c := ofUrl "http://localhost:8000"
    let reply : AnalyzerReply :=
      ⟨⟨200⟩, (Json.object [("analysis_id", .str "h-1/../h-2"), ("status", .str "queued")]).write⟩
    handleOf reply = .ok "h-1/../h-2" ∧
      ¬c.IsAddressOf "h-1/../h-2" (c.question "h-1/../h-2").url ∧
      WebAddress.ofText? (c.withdrawal "h-1/../h-2").url =
        WebAddress.ofText? (c.withdrawal "h-2").url := by
  intro c reply
  refine ⟨by decide +kernel, ?_, by decide +kernel⟩
  rintro ⟨segment, hparts, -⟩
  have hsegments := congrArg (fun parts => parts.segments.length) hparts
  have hcount :
      (AddressParts.ofChars (c.question "h-1/../h-2").url.toList).segments.length = 9 := by
    decide +kernel
  have hbase : (Text.cutAt '/' c.base.toList).length = 3 := by decide +kernel
  simp [hcount, hbase] at hsegments

end AnalyzerClient

end AnalysisDesk
