/-
What lies below an address.

A path is put behind an address after a slash.  If the address has no query and no fragment, what
names the host stays the same, and the pieces of the path are gone through one after another: first
those of the address, then those that were put behind it.  So what is below an address depends on
the address only by how far its own path has led.

A piece stands in a path as it is if it has only characters that need no percent sign, no slash of
either kind, and is none of the pieces that mean the place itself or the one above.
-/
import AnalysisDesk.Web.Address
import Mathlib.Data.List.TakeWhile

namespace AnalysisDesk.WebAddress

/-! ### Cleaning -/

/-- Whether a character is cleaned away at the edges of an address. -/
def isEdge (c : Char) : Bool := c.toNat ≤ 0x20

theorem dropWhile_append_cons {α : Type} {p : α → Bool} {last : α} (h : p last = false)
    (front back : List α) :
    (front ++ last :: back).dropWhile p = front.dropWhile p ++ last :: back := by
  rw [List.dropWhile_append]
  split
  next hnil => rw [List.isEmpty_iff.mp hnil, List.dropWhile_cons_of_neg (by simp [h])]; rfl
  next => rfl

theorem filter_of_not_edge {cs : List Char} (h : ∀ c ∈ cs, isEdge c = false) :
    (cs.filter fun c => c ≠ '\t' && c ≠ '\n' && c ≠ '\r') = cs := by
  rw [List.filter_eq_self]
  intro c hc
  have hedge := h c hc
  simp only [Bool.and_eq_true, decide_eq_true_eq]
  refine ⟨⟨?_, ?_⟩, ?_⟩ <;> rintro rfl <;> exact absurd hedge (by decide)

/-- Cleaning leaves alone what follows a character that is not cleaned away. -/
theorem exists_cleaned (front : List Char) {last : Char} (hlast : isEdge last = false) :
    ∃ core ⊆ front, ∀ back, (∀ c ∈ back, isEdge c = false) →
      cleaned (front ++ last :: back) = core ++ last :: back := by
  refine ⟨(front.dropWhile isEdge).filter fun c => c ≠ '\t' && c ≠ '\n' && c ≠ '\r', ?_, ?_⟩
  · exact fun c hc => (List.dropWhile_sublist _).subset (List.mem_filter.mp hc).1
  · intro back hback
    have hkept : ∀ c ∈ last :: back, isEdge c = false := List.forall_mem_cons.mpr ⟨hlast, hback⟩
    have hend : ∀ core : List Char, (core ++ last :: back).reverse.dropWhile isEdge =
        (core ++ last :: back).reverse := by
      intro core
      obtain ⟨c, cs, hreverse⟩ :=
        List.exists_cons_of_ne_nil (l := (last :: back).reverse) (by simp)
      have hc : isEdge c = false := hkept c (List.mem_reverse.mp (by simp [hreverse]))
      rw [List.reverse_append, hreverse, List.cons_append,
        List.dropWhile_cons_of_neg (by simp [hc])]
    show (((front ++ last :: back).dropWhile isEdge).reverse.dropWhile isEdge).reverse.filter _ = _
    rw [dropWhile_append_cons hlast, hend, List.reverse_reverse, List.filter_append,
      filter_of_not_edge hkept]

/-! ### Paths -/

/-- What stands after a host: nothing, or something that begins with a slash. -/
def BeginsPath (cs : List Char) : Prop := ∀ c ∈ cs.head?, isSlash c = true

/-- The one kind of slash for the other. -/
def slashed (c : Char) : Char := if c = '\\' then '/' else c

theorem slashed_of_isSlash {c : Char} (h : isSlash c = true) : slashed c = '/' := by
  unfold isSlash at h
  unfold slashed
  split
  · rfl
  · simp_all

theorem pathOf_of_slash {cs rest : List Char} (h : cs.map slashed = '/' :: rest) :
    pathOf cs = walk [] (Text.cutAt '/' rest) := by
  unfold pathOf
  rw [show (fun c => if c = '\\' then '/' else c) = slashed from rfl, h]
  rfl

/-- The pieces of a path come before those of a path below it. -/
theorem exists_pieces {above : List Char} (h : BeginsPath above) :
    ∃ pieces, ∀ below, pathOf (above ++ '/' :: below) =
      walk [] (pieces ++ Text.cutAt '/' (below.map slashed)) := by
  cases above with
  | nil => exact ⟨[], fun below => rfl⟩
  | cons c above =>
      refine ⟨Text.cutAt '/' (above.map slashed), fun below => ?_⟩
      rw [← Text.cutAt_append]
      refine pathOf_of_slash ?_
      rw [List.cons_append, List.map_cons, slashed_of_isSlash (h c rfl), List.map_append]
      rfl

/-- Where a piece leads that is not the last one. -/
def led (acc : List String) (piece : List Char) : List String :=
  if pointed piece = ['.', '.'] then acc.tail
  else if pointed piece = ['.'] then acc
  else String.ofList (Text.percentEncoded isPathChar piece) :: acc

theorem walk_cons_of_ne_nil {acc : List String} {piece : List Char} {more : List (List Char)}
    (h : more ≠ []) : walk acc (piece :: more) = walk (led acc piece) more := by
  have hends : more.isEmpty = false := by simp [h]
  rw [walk, led]
  simp only [hends, Bool.false_eq_true, if_false]
  split
  · rfl
  · split <;> rfl

/-- Going through some pieces leads somewhere, and on from there through those that follow. -/
theorem walk_append {acc : List String} {pieces more : List (List Char)} (h : more ≠ []) :
    walk acc (pieces ++ more) = walk (pieces.foldl led acc) more := by
  induction pieces generalizing acc with
  | nil => rfl
  | cons piece pieces ih =>
      rw [List.cons_append, walk_cons_of_ne_nil (by simp [h]), ih, List.foldl_cons]

/-! ### Hosts -/

/-- What names the host, at the front of an address without scheme. -/
def hostPart (cs : List Char) : List Char := cs.takeWhile fun c => !endsHost c

/-- What follows the host. -/
def pathPart (cs : List Char) : List Char := cs.drop (hostPart cs).length

theorem hostPart_append_pathPart (cs : List Char) : hostPart cs ++ pathPart cs = cs :=
  List.prefix_iff_eq_append.mp (List.takeWhile_prefix _)

theorem hostPart_of_beginsPath {cs : List Char} (h : BeginsPath cs) : hostPart cs = [] := by
  cases cs with
  | nil => rfl
  | cons c cs =>
      have hslash : isSlash c = true := h c rfl
      exact List.takeWhile_cons_of_neg (by simp [endsHost, hslash])

/-- Without query and fragment, a host is followed by a path. -/
theorem beginsPath_pathPart {cs : List Char} (h : ∀ c ∈ cs, c ≠ '?' ∧ c ≠ '#') :
    BeginsPath (pathPart cs) := by
  have heq : pathPart cs = cs.dropWhile fun c => !endsHost c := by
    have hsplit := List.takeWhile_append_dropWhile (p := fun c => !endsHost c) (l := cs)
    exact List.append_cancel_left ((hostPart_append_pathPart cs).trans hsplit.symm)
  intro c hc
  rw [heq] at hc
  have hends : endsHost c = true := by
    have hhead := List.head?_dropWhile_not (fun c => !endsHost c) cs
    rw [hc] at hhead
    simpa using hhead
  have hmem : c ∈ cs := (List.dropWhile_sublist _).subset (List.mem_of_mem_head? hc)
  simpa [endsHost, h c hmem] using hends

/-- A path that follows does not change what names the host. -/
theorem hostPart_append {cs path : List Char} (h : ∀ c ∈ cs, c ≠ '?' ∧ c ≠ '#')
    (hpath : BeginsPath path) : hostPart (cs ++ path) = hostPart cs := by
  have hbegins : BeginsPath (pathPart cs ++ path) := by
    have hcs := beginsPath_pathPart h
    cases hdrop : pathPart cs with
    | nil => exact hpath
    | cons c rest =>
        rw [hdrop] at hcs
        exact hcs
  calc hostPart (cs ++ path)
    _ = hostPart (hostPart cs ++ (pathPart cs ++ path)) := by
        rw [← List.append_assoc, hostPart_append_pathPart]
    _ = hostPart cs ++ hostPart (pathPart cs ++ path) :=
        List.takeWhile_append_of_pos fun c hc =>
          List.mem_takeWhile_imp (p := fun c => !endsHost c) hc
    _ = hostPart cs := by rw [hostPart_of_beginsPath hbegins, List.append_nil]

theorem pathPart_append {cs path : List Char} (h : ∀ c ∈ cs, c ≠ '?' ∧ c ≠ '#')
    (hpath : BeginsPath path) : pathPart (cs ++ path) = pathPart cs ++ path := by
  have hsplit := hostPart_append_pathPart (cs ++ path)
  rw [hostPart_append h hpath] at hsplit
  refine List.append_cancel_left (hsplit.trans ?_)
  rw [← List.append_assoc, hostPart_append_pathPart]

/-! ### Pieces -/

/-- A character that can be in a piece of a path that has been read. -/
def IsPieceChar (c : Char) : Prop := isPathChar c = true ∧ isSlash c = false

/-- A piece that stands in a path as it is. -/
structure StandsAsIs (piece : String) : Prop where
  chars : ∀ c ∈ piece.toList, IsPieceChar c
  notHere : pointed piece.toList ≠ ['.']
  notAbove : pointed piece.toList ≠ ['.', '.']

instance (piece : String) : Decidable (StandsAsIs piece) :=
  decidable_of_iff (piece.toList.all (fun c => isPathChar c && !isSlash c) = true ∧
    pointed piece.toList ≠ ['.'] ∧ pointed piece.toList ≠ ['.', '.']) <| by
      rw [List.all_eq_true]
      simp only [Bool.and_eq_true, Bool.not_eq_true']
      exact ⟨fun ⟨hchars, hhere, habove⟩ => ⟨hchars, hhere, habove⟩,
        fun h => ⟨h.chars, h.notHere, h.notAbove⟩⟩

theorem percentEncoded_of_path {cs : List Char} (h : ∀ c ∈ cs, isPathChar c = true) :
    Text.percentEncoded isPathChar cs = cs := by
  induction cs with
  | nil => rfl
  | cons c cs ih =>
      obtain ⟨hc, hcs⟩ := List.forall_mem_cons.mp h
      rw [Text.percentEncoded, List.flatMap_cons, if_pos hc]
      exact congrArg (c :: ·) (ih hcs)

theorem isPieceChar_of_mem_percentEncodedByte {b : UInt8} {c : Char}
    (h : c ∈ Text.percentEncodedByte b) : IsPieceChar c := by
  have hdigit : ∀ n < 16, isPathChar (Text.upperHexDigit n) = true ∧
      isSlash (Text.upperHexDigit n) = false := by decide
  have hb := b.toNat_lt
  simp only [Text.percentEncodedByte, List.mem_cons, List.not_mem_nil, or_false] at h
  rcases h with rfl | rfl | rfl
  · exact ⟨by decide, by decide⟩
  · exact hdigit _ (by omega)
  · exact hdigit _ (by omega)

theorem isPieceChar_of_mem_percentEncoded {cs : List Char} (h : ∀ c ∈ cs, isSlash c = false)
    {c : Char} (hc : c ∈ Text.percentEncoded isPathChar cs) : IsPieceChar c := by
  obtain ⟨d, hd, hc⟩ := List.mem_flatMap.mp hc
  split at hc
  next hplain =>
    obtain rfl := List.mem_singleton.mp hc
    exact ⟨hplain, h c hd⟩
  next =>
    obtain ⟨b, -, hc⟩ := List.mem_flatMap.mp hc
    exact isPieceChar_of_mem_percentEncodedByte hc

/-- What is gone through has only characters of pieces, if it was cut at slashes. -/
theorem isPieceChar_of_mem_walk {acc : List String} {pieces : List (List Char)}
    (hacc : ∀ piece ∈ acc, ∀ c ∈ piece.toList, IsPieceChar c)
    (hpieces : ∀ piece ∈ pieces, ∀ c ∈ piece, isSlash c = false) :
    ∀ piece ∈ walk acc pieces, ∀ c ∈ piece.toList, IsPieceChar c := by
  have hempty : ∀ {acc : List String}, (∀ piece ∈ acc, ∀ c ∈ piece.toList, IsPieceChar c) →
      ∀ piece ∈ "" :: acc, ∀ c ∈ piece.toList, IsPieceChar c := fun h =>
    List.forall_mem_cons.mpr ⟨nofun, h⟩
  induction pieces generalizing acc with
  | nil => exact fun piece hpiece => hacc piece (List.mem_reverse.mp hpiece)
  | cons piece pieces ih =>
      obtain ⟨hpiece, hpieces⟩ := List.forall_mem_cons.mp hpieces
      have htail : ∀ piece ∈ acc.tail, ∀ c ∈ piece.toList, IsPieceChar c := fun piece hpiece =>
        hacc piece (List.mem_of_mem_tail hpiece)
      rw [walk]
      split
      · refine ih ?_ hpieces
        split
        · exact hempty htail
        · exact htail
      · split
        · refine ih ?_ hpieces
          split
          · exact hempty hacc
          · exact hacc
        · refine ih (List.forall_mem_cons.mpr ⟨?_, hacc⟩) hpieces
          rw [String.toList_ofList]
          exact fun c => isPieceChar_of_mem_percentEncoded hpiece

/-! ### Addresses -/

/-- Whether the connection is encrypted, by the scheme of an address. -/
def secure? (scheme : List Char) : Option Bool :=
  if (String.ofList scheme).toLower = "http" then some false
  else if (String.ofList scheme).toLower = "https" then some true
  else none

/-- An address without query and fragment is read part by part. -/
theorem ofText?_of_parts {text : String} {scheme after named : List Char}
    (hclean : cleaned text.toList = scheme ++ ':' :: after) (hscheme : ':' ∉ scheme)
    (hnamed : after.dropWhile isSlash = named) (hmarks : ∀ c ∈ named, c ≠ '?' ∧ c ≠ '#') :
    ofText? text = (secure? scheme).bind fun secure =>
      (hostOf? (if secure then 443 else 80) (hostPart named)).map fun found =>
        ⟨secure, found.1, found.2, pathOf (pathPart named), none⟩ := by
  subst hnamed
  have htake : (scheme ++ ':' :: after).takeWhile (· != ':') = scheme := by
    rw [List.takeWhile_append_of_pos fun c hc => by
      simpa using ne_of_mem_of_not_mem hc hscheme, List.takeWhile_cons_of_neg (by decide),
      List.append_nil]
  have hpath : ∀ c ∈ pathPart (after.dropWhile isSlash), c ≠ '?' ∧ c ≠ '#' := fun c hc =>
    hmarks c (List.mem_of_mem_drop hc)
  have hfragment : (pathPart (after.dropWhile isSlash)).takeWhile (· != '#') =
      pathPart (after.dropWhile isSlash) :=
    List.takeWhile_eq_self_iff.mpr fun c hc => by simp [hpath c hc]
  have hquery : (pathPart (after.dropWhile isSlash)).takeWhile (· != '?') =
      pathPart (after.dropWhile isSlash) :=
    List.takeWhile_eq_self_iff.mpr fun c hc => by simp [hpath c hc]
  unfold pathPart hostPart at *
  unfold ofText? secure?
  simp only [hclean, htake, List.drop_left]
  generalize (String.ofList scheme).toLower = name
  by_cases hhttp : name = "http"
  · subst hhttp
    simp only [if_true, Option.bind_some, Option.bind_eq_bind, hfragment, hquery, List.drop_length,
      Option.map_eq_bind]
    rfl
  by_cases hhttps : name = "https"
  · subst hhttps
    simp only [if_true, hhttp, if_false, Option.bind_some, Option.bind_eq_bind, hfragment, hquery,
      List.drop_length, Option.map_eq_bind]
    rfl
  · simp only [hhttp, hhttps, if_false, Option.bind_none]
    rfl

/-- What has been read has a scheme, and a path that has been gone through. -/
theorem colon_mem_and_exists_pathOf {text : String} {a : WebAddress} (h : ofText? text = some a) :
    ':' ∈ cleaned text.toList ∧ ∃ cs, a.path = pathOf cs := by
  unfold ofText? at h
  dsimp only at h
  split at h <;> split at h
  -- only a known scheme with a colon behind it is left
  all_goals
    simp only [Option.bind_eq_bind, Option.bind_some, Option.bind_none, reduceCtorEq,
      Option.bind_eq_some_iff, Option.some.injEq] at h
  all_goals
    rename_i hdrop
    obtain ⟨found, -, rfl⟩ := h
    exact ⟨List.mem_of_mem_drop (hdrop ▸ List.mem_cons_self), _, rfl⟩

/-- The path of an address that has been read has only characters of pieces. -/
theorem isPieceChar_of_mem_path {text : String} {a : WebAddress} (h : ofText? text = some a) :
    ∀ piece ∈ a.path, ∀ c ∈ piece.toList, IsPieceChar c := by
  obtain ⟨-, cs, hpath⟩ := colon_mem_and_exists_pathOf h
  rw [hpath]
  unfold pathOf
  dsimp only
  split
  next slashed rest hslashed =>
    refine isPieceChar_of_mem_walk nofun fun piece hpiece c hc => ?_
    obtain ⟨hmem, hne⟩ := Text.mem_of_mem_cutAt hpiece hc
    obtain ⟨d, -, rfl⟩ := List.mem_map.mp (hslashed ▸ List.mem_cons_of_mem '/' hmem)
    by_cases hd : d = '\\'
    · exact absurd (if_pos hd) hne
    · rw [if_neg hd] at hne ⊢
      simp [isSlash, hne, hd]
  next =>
    intro piece hpiece c hc
    obtain rfl := List.mem_singleton.mp hpiece
    exact nomatch hc

/-! ### Below an address -/

/-- An address below which something can be put: it has neither query nor fragment, and ends with
a character of a piece. -/
structure LeadsDown (front : String) : Prop where
  noMarks : ∀ c ∈ front.toList, c ≠ '?' ∧ c ≠ '#'
  ending : ∃ last, front.toList.getLast? = some last ∧ IsPieceChar last ∧ last ≠ ':'

theorem IsPieceChar.not_edge {c : Char} (h : IsPieceChar c) : isEdge c = false := by
  obtain ⟨hchar, -⟩ := h
  simp only [isPathChar, isUnsafe, Bool.and_eq_true, Bool.not_eq_true', Bool.or_eq_false_iff,
    decide_eq_false_iff_not, Nat.not_lt] at hchar
  obtain ⟨⟨hlow, -⟩, hlisted⟩ := hchar
  -- the blank is the last character of the edges, and needs a percent sign
  have hblank : c.toNat ≠ 0x20 := by
    intro hc
    obtain rfl : c = ' ' := Char.toNat_inj.mp hc
    exact absurd hlisted (by decide)
  simp only [isEdge, decide_eq_false_iff_not]
  omega

theorem IsPieceChar.not_mark {c : Char} (h : IsPieceChar c) : c ≠ '?' ∧ c ≠ '#' := by
  obtain ⟨hchar, -⟩ := h
  constructor <;> rintro rfl <;> exact absurd hchar (by decide)

/-- Cleaning leaves alone what is below an address. -/
theorem LeadsDown.cleaned_append {front below : String} (h : LeadsDown front)
    (hbelow : ∀ c ∈ below.toList, isEdge c = false) :
    cleaned (front ++ "/" ++ below).toList = cleaned front.toList ++ '/' :: below.toList := by
  obtain ⟨-, last, hending, hlast, -⟩ := h
  obtain ⟨rest, hfront⟩ := List.getLast?_eq_some_iff.mp hending
  obtain ⟨core, -, hcleaned⟩ := exists_cleaned rest hlast.not_edge
  have hkept : ∀ c ∈ '/' :: below.toList, isEdge c = false :=
    List.forall_mem_cons.mpr ⟨by decide, hbelow⟩
  have hjoin : (front ++ "/" ++ below).toList = rest ++ last :: '/' :: below.toList := by
    simp [hfront]
  rw [hjoin, hfront, hcleaned [] nofun, hcleaned _ hkept, List.append_assoc]
  rfl

/-- **What is below an address** is found from where its own path has led: the same host, and the
pieces of what is below, gone through from there. -/
theorem LeadsDown.exists_ofText? {front : String} (h : LeadsDown front)
    (hscheme : ':' ∈ cleaned front.toList) :
    ∃ acc, ∀ below : String, (∀ c ∈ below.toList, isEdge c = false ∧ c ≠ '?' ∧ c ≠ '#') →
      ofText? (front ++ "/" ++ below) = (ofText? front).map fun a =>
        { a with path := walk acc (Text.cutAt '/' (below.toList.map slashed)) } := by
  obtain ⟨last, hending, hlast, hcolon⟩ := h.ending
  obtain ⟨rest, hfront⟩ := List.getLast?_eq_some_iff.mp hending
  obtain ⟨core, hcore, hcleaned⟩ := exists_cleaned rest hlast.not_edge
  have hinside : ':' ∈ core := by
    rw [hfront, hcleaned [] nofun] at hscheme
    simpa [hcolon.symm] using hscheme
  obtain ⟨scheme, after, rfl, hnot⟩ := List.eq_append_cons_of_mem hinside
  have hnamed : ∀ c ∈ after.dropWhile isSlash ++ [last], c ≠ '?' ∧ c ≠ '#' := by
    intro c hc
    refine h.noMarks c (hfront ▸ ?_)
    rcases List.mem_append.mp hc with hc | hc
    · have hafter : c ∈ after := (List.dropWhile_sublist _).subset hc
      exact List.mem_append_left _
        (hcore (List.mem_append_right scheme (List.mem_cons_of_mem ':' hafter)))
    · exact List.mem_append_right rest hc
  obtain ⟨pieces, hpieces⟩ := exists_pieces (beginsPath_pathPart hnamed)
  refine ⟨pieces.foldl led [], fun below hbelow => ?_⟩
  have hbegins : BeginsPath ('/' :: below.toList) := by simp [BeginsPath, isSlash]
  have hclean : cleaned (front ++ "/" ++ below).toList =
      scheme ++ ':' :: (after ++ last :: '/' :: below.toList) := by
    rw [h.cleaned_append fun c hc => (hbelow c hc).1, hfront, hcleaned [] nofun]
    simp
  have hslashes : (after ++ last :: '/' :: below.toList).dropWhile isSlash =
      (after.dropWhile isSlash ++ [last]) ++ '/' :: below.toList := by
    rw [dropWhile_append_cons hlast.2, List.append_assoc]
    rfl
  have hall : ∀ c ∈ (after.dropWhile isSlash ++ [last]) ++ '/' :: below.toList,
      c ≠ '?' ∧ c ≠ '#' :=
    List.forall_mem_append.mpr ⟨hnamed,
      List.forall_mem_cons.mpr ⟨by decide, fun c hc => (hbelow c hc).2⟩⟩
  have hread := ofText?_of_parts hclean hnot hslashes hall
  have hreadFront : ofText? front = _ := ofText?_of_parts
    (by rw [hfront, hcleaned [] nofun, List.append_assoc, List.cons_append]) hnot
    (dropWhile_append_cons hlast.2 after []) hnamed
  rw [hread, hreadFront, hostPart_append hnamed hbegins, pathPart_append hnamed hbegins, hpieces,
    walk_append (Text.cutAt_ne_nil _ _)]
  cases secure? scheme with
  | none => rfl
  | some secure =>
      simp only [Option.bind_some, Option.map_map]
      rfl

/-- A piece is not cut. -/
theorem cutAt_piece {piece : String} (h : ∀ c ∈ piece.toList, IsPieceChar c) :
    Text.cutAt '/' (piece.toList.map slashed) = [piece.toList] := by
  have hchars : ∀ c ∈ piece.toList, slashed c = c ∧ c ≠ '/' := by
    intro c hc
    have hslash : ¬c = '/' ∧ ¬c = '\\' := by simpa [isSlash] using (h c hc).2
    exact ⟨if_neg hslash.2, hslash.1⟩
  have hmap : piece.toList.map slashed = piece.toList :=
    (List.map_congr_left fun c hc => (hchars c hc).1).trans (List.map_id' _)
  rw [hmap, Text.cutAt_eq_singleton_iff]
  exact ⟨fun hmem => (hchars _ hmem).2 rfl, rfl⟩

theorem StandsAsIs.led {name : String} (h : StandsAsIs name) (acc : List String) :
    led acc name.toList = name :: acc := by
  rw [WebAddress.led, if_neg h.notAbove, if_neg h.notHere,
    percentEncoded_of_path fun c hc => (h.chars c hc).1, String.ofList_toList]

theorem StandsAsIs.walk {name : String} (h : StandsAsIs name) (acc : List String) :
    walk acc [name.toList] = acc.reverse ++ [name] := by
  rw [WebAddress.walk, if_neg h.notAbove, if_neg h.notHere,
    percentEncoded_of_path fun c hc => (h.chars c hc).1, String.ofList_toList, WebAddress.walk,
    List.reverse_cons]

/-- Behind a piece another one comes, unless it does not stand as it is. -/
theorem standsAsIs_of_walk {acc : List String} {name piece : String}
    (hchars : ∀ c ∈ piece.toList, IsPieceChar c)
    (h : WebAddress.walk (name :: acc) [piece.toList] = acc.reverse ++ [name] ++ [piece]) :
    StandsAsIs piece := by
  refine ⟨hchars, fun hhere => ?_, fun habove => ?_⟩
  · have hwalk : WebAddress.walk (name :: acc) [piece.toList] = acc.reverse ++ [name] ++ [""] := by
      simp [WebAddress.walk, hhere]
    obtain rfl : piece = "" := by simpa [hwalk, eq_comm] using h
    exact absurd hhere (by decide)
  · have hwalk : WebAddress.walk (name :: acc) [piece.toList] = acc.reverse ++ [""] := by
      simp [WebAddress.walk, habove]
    have hlength := congrArg List.length (hwalk.symm.trans h)
    simp at hlength

/-- **One piece below an address**: what is read has it as its last piece exactly if it stands in a
path as it is. -/
theorem ofText?_below_iff {front name : String} {a : WebAddress} (hfront : LeadsDown front)
    (hname : StandsAsIs name) (hcolon : ':' ∉ name.toList)
    (h : ofText? (front ++ "/" ++ name) = some a) (piece : String) :
    ofText? (front ++ "/" ++ name ++ "/" ++ piece) = some { a with path := a.path ++ [piece] } ↔
      StandsAsIs piece := by
  have hlegal : ∀ {c : Char}, IsPieceChar c → isEdge c = false ∧ c ≠ '?' ∧ c ≠ '#' := fun hc =>
    ⟨hc.not_edge, hc.not_mark⟩
  have hnames : ∀ c ∈ name.toList, isEdge c = false ∧ c ≠ '?' ∧ c ≠ '#' := fun c hc =>
    hlegal (hname.chars c hc)
  have hscheme : ':' ∈ cleaned front.toList := by
    have hmem := (colon_mem_and_exists_pathOf h).1
    rw [hfront.cleaned_append fun c hc => (hnames c hc).1] at hmem
    simpa [hcolon] using hmem
  obtain ⟨acc, hbelow⟩ := hfront.exists_ofText? hscheme
  rw [hbelow name hnames, cutAt_piece hname.chars] at h
  obtain ⟨host, hhost, rfl⟩ := Option.map_eq_some_iff.mp h
  -- what is read if the piece has only characters of pieces
  have hread : (∀ c ∈ piece.toList, IsPieceChar c) →
      ofText? (front ++ "/" ++ name ++ "/" ++ piece) =
        some { host with path := walk (name :: acc) [piece.toList] } := by
    intro hpiece
    have hjoin : front ++ "/" ++ name ++ "/" ++ piece = front ++ "/" ++ (name ++ "/" ++ piece) := by
      simp only [String.append_assoc]
    have hchars : ∀ c ∈ (name ++ "/" ++ piece).toList, isEdge c = false ∧ c ≠ '?' ∧ c ≠ '#' := by
      have hslash : (name ++ "/" ++ piece).toList = name.toList ++ '/' :: piece.toList := by simp
      rw [hslash]
      exact List.forall_mem_append.mpr ⟨hnames,
        List.forall_mem_cons.mpr ⟨by decide, fun c hc => hlegal (hpiece c hc)⟩⟩
    have hpieces : Text.cutAt '/' ((name ++ "/" ++ piece).toList.map slashed) =
        [name.toList] ++ Text.cutAt '/' (piece.toList.map slashed) := by
      rw [← cutAt_piece hname.chars, ← Text.cutAt_append]
      simp [slashed]
    rw [hjoin, hbelow _ hchars, hhost, hpieces, cutAt_piece hpiece,
      walk_append (List.cons_ne_nil _ _), List.foldl_cons, List.foldl_nil, hname.led]
    rfl
  rw [hname.walk]
  constructor
  · intro h
    have hchars := isPieceChar_of_mem_path h piece (by simp)
    rw [hread hchars] at h
    exact standsAsIs_of_walk hchars (congrArg path (Option.some.inj h))
  · intro hpiece
    rw [hread hpiece.chars, hpiece.walk, List.reverse_cons]

end AnalysisDesk.WebAddress
