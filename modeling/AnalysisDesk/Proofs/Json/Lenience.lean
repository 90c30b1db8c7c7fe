/-
What may be put otherwise in an object without changing what is decoded from it.

Someone who reads an object by the names of its members takes no notice of names that are none of
theirs, and of a member that may be missing takes null for the same.  `Lenient` says so of the
members of a record, each for itself, together with what else its parts may be replaced by; from
that come the changes of whole objects, each made to the first entry, since the order of the
entries does not matter.
-/
import AnalysisDesk.Proofs.Json.Records

namespace AnalysisDesk

open Decode

variable {α β : Type} {origin : Origin}

/-! ### Readings in place of others -/

/-- What a decoder makes of a reading it makes of another one as well. -/
def Decoder.Follows (d : Decoder α) (origin : Origin) (reading reading' : Reading) : Prop :=
  ∀ a, d origin reading = .ok a → d origin reading' = .ok a

namespace Decoder.Follows

variable {d : Decoder α} {reading reading' reading'' : Reading}

theorem trans (h : d.Follows origin reading reading') (h' : d.Follows origin reading' reading'') :
    d.Follows origin reading reading'' := fun a ha => h' a (h a ha)

theorem fault (h : d.Follows origin reading reading')
    (hnone : Fields.faultOf d origin reading = none) :
    Fields.faultOf d origin reading' = none := by
  obtain ⟨a, ha⟩ := Fields.faultOf_eq_none_iff.mp hnone
  exact Fields.faultOf_eq_none_iff.mpr ⟨a, h a ha⟩

theorem items (h : d.Follows origin reading reading') {first last : List Reading} {index : Nat}
    {as : List α} (hitems : Decoder.items d origin index (first ++ reading :: last) = .ok as) :
    Decoder.items d origin index (first ++ reading' :: last) = .ok as := by
  induction first generalizing index as with
  | nil =>
      rw [List.nil_append, Decoder.items] at hitems ⊢
      cases ha : d origin reading with
      | error fault => rw [ha] at hitems; exact nomatch hitems
      | ok a => rw [ha] at hitems; rw [h a ha]; exact hitems
  | cons item first ih =>
      rw [List.cons_append, Decoder.items] at hitems ⊢
      cases ha : d origin item with
      | error fault => rw [ha] at hitems; exact nomatch hitems
      | ok a =>
          rw [ha] at hitems
          cases hrest : Decoder.items d origin (index + 1) (first ++ reading :: last) with
          | error fault => rw [hrest] at hitems; exact nomatch hitems
          | ok others => rw [hrest] at hitems; rw [ih hrest]; exact hitems

/-- One item of a list is replaced. -/
theorem list (h : d.Follows origin reading reading') {first last : List Reading} {whole : Bool} :
    d.list.Follows origin (.arr (first ++ reading :: last) whole)
      (.arr (first ++ reading' :: last) whole) := by
  intro as has
  unfold Decoder.list at has ⊢
  dsimp only at has ⊢
  cases hitems : Decoder.items d origin 0 (first ++ reading :: last) with
  | error fault => rw [hitems] at has; exact nomatch has
  | ok others => rw [hitems] at has; rw [h.items hitems]; exact has

end Decoder.Follows

namespace Decode.Fields

/-! ### Members for themselves -/

/-- What may be found under a name in place of something else: null for nothing and nothing for
null under the names in `spares`, and for a part whatever takes its place. -/
inductive Alike (spares : List String) (part : String → Reading → Reading → Prop) (name : String) :
    Option Reading → Option Reading → Prop
  | same (found : Option Reading) : Alike spares part name found found
  | added (h : name ∈ spares) : Alike spares part name none (some .null)
  | dropped (h : name ∈ spares) : Alike spares part name (some .null) none
  | changed {value value' : Reading} (h : part name value value') :
      Alike spares part name (some value) (some value')

/-- A record is built from what stands under the names of its members, and from alike things alike
records are. -/
structure Lenient (origin : Origin) (spares : List String)
    (part : String → Reading → Reading → Prop) (fields : Fields α) : Prop where
  /-- A record is built from values that pass. -/
  reads : ∀ {present a}, fields.build origin present = .ok a → ∀ member ∈ fields.members,
    ∀ value, present member.name = some value → member.fault? origin value = none
  /-- Alike things are found under the same names. -/
  build : ∀ {present present'},
    (∀ name ∈ names fields.members, Alike spares part name (present name) (present' name)) →
      ∀ {a}, fields.build origin present = .ok a → fields.build origin present' = .ok a
  /-- A spare member may be null. -/
  spared : ∀ member ∈ fields.members, member.name ∈ spares → member.fault? origin .null = none
  /-- A part that passed may be replaced. -/
  parts : ∀ member ∈ fields.members, ∀ value value', part member.name value value' →
    member.fault? origin value = none → member.fault? origin value' = none

namespace Lenient

variable {spares : List String} {part : String → Reading → Reading → Prop} {name : String}
  {d : Decoder α}

theorem map {f : α → β} {fields : Fields α} (h : fields.Lenient origin spares part) :
    (f <$> fields).Lenient origin spares part where
  reads hbuilt := by
    obtain ⟨a, ha, -⟩ := build_map_eq_ok_iff.mp hbuilt
    exact h.reads ha
  build halike b hbuilt := by
    obtain ⟨a, ha, hb⟩ := build_map_eq_ok_iff.mp hbuilt
    exact build_map_eq_ok_iff.mpr ⟨a, h.build halike ha, hb⟩
  spared := h.spared
  parts := h.parts

theorem seq {f : Fields (α → β)} {fields : Fields α} (hf : f.Lenient origin spares part)
    (h : fields.Lenient origin spares part) : (f <*> fields).Lenient origin spares part where
  reads hbuilt := by
    obtain ⟨g, a, hg, ha, -⟩ := build_seq_eq_ok_iff.mp hbuilt
    exact List.forall_mem_append.mpr ⟨hf.reads hg, h.reads ha⟩
  build halike b hbuilt := by
    obtain ⟨g, a, hg, ha, hb⟩ := build_seq_eq_ok_iff.mp hbuilt
    have hnames : names (f <*> fields).members = names f.members ++ names fields.members :=
      List.map_append
    rw [hnames] at halike
    obtain ⟨hleft, hright⟩ := List.forall_mem_append.mp halike
    exact build_seq_eq_ok_iff.mpr ⟨g, a, hf.build hleft hg, h.build hright ha, hb⟩
  spared := List.forall_mem_append.mpr ⟨hf.spared, h.spared⟩
  parts := List.forall_mem_append.mpr ⟨hf.parts, h.parts⟩

/-- A member that takes no notice of null: it is decoded where it is found, and where it is missing
there is one outcome. -/
theorem member {absence : Absence} {missing : Except Fault α} (hspare : name ∉ spares)
    (hpart : ∀ value value', part name value value' → d.Follows origin value value') :
    Lenient origin spares part {
      members := [⟨name, absence, faultOf d⟩]
      build := fun origin present =>
        match present name with
        | some reading => d origin reading
        | none => missing } where
  reads hbuilt := by
    refine List.forall_mem_singleton.mpr fun value hvalue => ?_
    simp only [hvalue] at hbuilt
    exact faultOf_eq_none_iff.mpr ⟨_, hbuilt⟩
  build {present present'} halike a hbuilt := by
    have hfound := List.forall_mem_singleton.mp halike
    dsimp only at hbuilt hfound ⊢
    generalize present name = found, present' name = found' at hbuilt hfound ⊢
    cases hfound with
    | same => exact hbuilt
    | added h | dropped h => exact absurd h hspare
    | changed h => exact hpart _ _ h a hbuilt
  spared := List.forall_mem_singleton.mpr fun h => absurd h hspare
  parts := List.forall_mem_singleton.mpr fun _ _ h => (hpart _ _ h).fault

theorem required (hspare : name ∉ spares)
    (hpart : ∀ value value', part name value value' → d.Follows origin value value') :
    (required name d).Lenient origin spares part :=
  member hspare hpart

theorem defaulted {default : α} (hspare : name ∉ spares)
    (hpart : ∀ value value', part name value value' → d.Follows origin value value') :
    (defaulted name d default).Lenient origin spares part :=
  member hspare hpart

theorem spare (hpart : ∀ value value', ¬ part name value value') :
    (Fields.spare name d).Lenient origin spares part where
  reads hbuilt := by
    refine List.forall_mem_singleton.mpr fun value hvalue => ?_
    rw [build_spare, hvalue] at hbuilt
    exact faultOf_eq_none_iff.mpr ⟨_, hbuilt⟩
  build {present present'} halike a hbuilt := by
    have hfound := List.forall_mem_singleton.mp halike
    rw [build_spare] at hbuilt ⊢
    dsimp only at hfound
    generalize present name = found, present' name = found' at hbuilt hfound ⊢
    cases hfound with
    | same | added _ | dropped _ => exact hbuilt
    | changed h => exact absurd h (hpart _ _)
  spared := List.forall_mem_singleton.mpr fun _ => rfl
  parts := List.forall_mem_singleton.mpr fun _ _ h => absurd h (hpart _ _)

/-! ### Whole objects -/

variable {fields : Fields α} {record : String} {entries entries' : List (String × Reading)}
  {value value' : Reading}

/-- Objects are exchanged if tidiness is kept and alike things are found under the names. -/
theorem follows (h : fields.Lenient origin spares part)
    (htidy : Tidy fields.members origin entries → Tidy fields.members origin entries' ∧
      ∀ name ∈ names fields.members,
        Alike spares part name (entries.lookup name) (entries'.lookup name)) :
    (decoder record fields).Follows origin (.obj entries true) (.obj entries' true) := by
  intro a ha
  obtain ⟨-, htidied, hbuilt⟩ := decoder_obj_eq_ok_iff.mp ha
  obtain ⟨htidied', halike⟩ := htidy htidied
  exact decoder_obj_eq_ok_iff.mpr ⟨rfl, htidied', h.build halike hbuilt⟩

/-- The order of the entries does not matter. -/
theorem reordered (h : fields.Lenient origin spares part) (hperm : entries.Perm entries') :
    (decoder record fields).Follows origin (.obj entries true) (.obj entries' true) := by
  refine h.follows fun htidy => ⟨htidy.perm hperm, fun name hname => ?_⟩
  rw [lookup_eq_of_perm hperm (htidy.count_le_one hname)]
  exact .same _

theorem unknown_added (h : fields.Lenient origin spares part) (hname : name ∉ names fields.members)
    (hsound : value.isSound = true) :
    (decoder record fields).Follows origin (.obj entries true)
      (.obj ((name, value) :: entries) true) := by
  refine h.follows fun htidy => ⟨?_, fun other hother => ?_⟩
  · exact tidy_cons_iff.mpr ⟨(passes_of_unknown hname).mpr hsound, fun hc => absurd hc hname, htidy⟩
  · have hne : other ≠ name := fun hsame => hname (hsame ▸ hother)
    rw [lookup_cons_of_ne hne]
    exact .same _

/-- Null passes under every name that may be missing. -/
theorem passes_null (h : fields.Lenient origin spares part) (hname : name ∈ spares) :
    Passes fields.members origin (name, .null) := by
  by_cases hknown : name ∈ names fields.members
  · obtain ⟨member, hmember, rfl, hpasses⟩ := exists_member_of_known origin hknown
    exact (hpasses .null).mpr (h.spared member hmember hname)
  · exact (passes_of_unknown hknown).mpr rfl

theorem null_added (h : fields.Lenient origin spares part) (hname : name ∈ spares)
    (habsent : name ∉ entries.map Prod.fst) :
    (decoder record fields).Follows origin (.obj entries true)
      (.obj ((name, .null) :: entries) true) := by
  refine h.follows fun htidy => ⟨?_, fun other _ => ?_⟩
  · exact tidy_cons_iff.mpr ⟨h.passes_null hname, fun _ => habsent, htidy⟩
  · by_cases hother : other = name
    · subst hother
      rw [List.lookup_cons_self, lookup_eq_none_of_not_mem habsent]
      exact .added hname
    · rw [lookup_cons_of_ne hother]
      exact .same _

theorem null_dropped (h : fields.Lenient origin spares part) (hname : name ∈ spares) :
    (decoder record fields).Follows origin (.obj ((name, .null) :: entries) true)
      (.obj entries true) := by
  refine h.follows fun htidy => ?_
  obtain ⟨-, hfresh, hrest⟩ := tidy_cons_iff.mp htidy
  refine ⟨hrest, fun other hknown => ?_⟩
  by_cases hother : other = name
  · subst hother
    rw [List.lookup_cons_self, lookup_eq_none_of_not_mem (hfresh hknown)]
    exact .dropped hname
  · rw [lookup_cons_of_ne hother]
    exact .same _

theorem part_changed (h : fields.Lenient origin spares part)
    (hknown : name ∈ names fields.members) (hpart : part name value value') :
    (decoder record fields).Follows origin (.obj ((name, value) :: entries) true)
      (.obj ((name, value') :: entries) true) := by
  refine h.follows fun htidy => ?_
  obtain ⟨hold, hfresh, hrest⟩ := tidy_cons_iff.mp htidy
  refine ⟨tidy_cons_iff.mpr ⟨?_, hfresh, hrest⟩, fun other _ => ?_⟩
  · obtain ⟨member, hmember, rfl, hpasses⟩ := exists_member_of_known origin hknown
    have hread := (hpasses value).mp hold
    exact (hpasses value').mpr (h.parts member hmember value value' hpart hread)
  · by_cases hother : other = name
    · subst hother
      rw [List.lookup_cons_self, List.lookup_cons_self]
      exact .changed hpart
    · rw [lookup_cons_of_ne hother, lookup_cons_of_ne hother]
      exact .same _

/-- A record is decoded from the object of its fields, whatever the order of their names. -/
theorem decoder_object_eq_ok (h : fields.Lenient origin spares part) {given : List (String × Json)}
    {a : α} (hnames : (given.map Prod.fst).Nodup)
    (hbuilt : fields.build origin (fun name => (Reading.ofFields given).lookup name) = .ok a) :
    decoder record fields origin (.ofJson (.object given)) = .ok a := by
  obtain ⟨sorted, hobject, hperm⟩ := Json.object_perm hnames
  have hread : (Reading.ofFields given).Perm (Reading.ofFields sorted) := by
    rw [Reading.ofFields_eq_map, Reading.ofFields_eq_map]
    exact hperm.symm.map _
  rw [← Reading.map_fst_ofFields] at hnames
  have htidy : Tidy fields.members origin (Reading.ofFields given) := by
    refine ⟨?_, hnames.filter _⟩
    rintro ⟨name, value⟩ hentry
    by_cases hknown : name ∈ names fields.members
    · obtain ⟨member, hmember, rfl, hpasses⟩ := exists_member_of_known origin hknown
      have hfound := lookup_eq_some_of_mem hnames hentry
      exact (hpasses value).mpr (h.reads hbuilt member hmember value hfound)
    · rw [Reading.ofFields_eq_map] at hentry
      obtain ⟨field, -, hfield⟩ := List.mem_map.mp hentry
      obtain ⟨-, rfl⟩ := Prod.mk.inj hfield
      exact (passes_of_unknown hknown).mpr (Reading.isSound_ofJson field.2)
  rw [hobject, Reading.ofJson]
  exact h.reordered hread a (decoder_obj_eq_ok_iff.mpr ⟨rfl, htidy, hbuilt⟩)

end Lenient

end Decode.Fields

/-! ### Documents put otherwise -/

/-- The fields of an object are put otherwise, of no consequence to someone who knows the names in
`known` and can do without those in `spares`. -/
inductive Json.Reworded (known spares : List String) :
    List (String × Json) → List (String × Json) → Prop
  /-- A field with an unknown name is added anywhere. -/
  | unknownAdded {before after : List (String × Json)} {name : String} (value : Json)
      (hname : name ∉ known) :
      Reworded known spares (before ++ after) (before ++ (name, value) :: after)
  /-- A spare field that is missing is added as null. -/
  | nullAdded {before after : List (String × Json)} {name : String} (hname : name ∈ spares)
      (habsent : name ∉ (before ++ after).map Prod.fst) :
      Reworded known spares (before ++ after) (before ++ (name, .null) :: after)
  /-- A spare field that is null is removed. -/
  | nullDropped {before after : List (String × Json)} {name : String} (hname : name ∈ spares) :
      Reworded known spares (before ++ (name, .null) :: after) (before ++ after)

namespace Decode.Fields.Lenient

variable {spares : List String} {part : String → Reading → Reading → Prop} {fields : Fields α}
  {record : String}

/-- **Of a document that is put otherwise a lenient decoder makes the same.** -/
theorem follows_of_reworded (h : fields.Lenient origin spares part)
    {given given' : List (String × Json)}
    (hreworded : Json.Reworded (names fields.members) spares given given') :
    (decoder record fields).Follows origin (.ofJson (.obj given)) (.ofJson (.obj given')) := by
  rw [Reading.ofJson, Reading.ofJson]
  cases hreworded with
  | @unknownAdded before after name value hname =>
      have hmiddle := Reading.ofFields_middle before after name value
      exact (h.unknown_added hname (Reading.isSound_ofJson value)).trans (h.reordered hmiddle.symm)
  | @nullAdded before after name hname habsent =>
      have hmiddle := Reading.ofFields_middle before after name .null
      rw [← Reading.map_fst_ofFields] at habsent
      exact (h.null_added hname habsent).trans (h.reordered hmiddle.symm)
  | @nullDropped before after name hname =>
      have hmiddle := Reading.ofFields_middle before after name .null
      exact (h.reordered hmiddle).trans (h.null_dropped hname)

/-- The same of a document in which a part is replaced. -/
theorem follows_of_part (h : fields.Lenient origin spares part) {before after : List (String × Json)}
    {name : String} {value value' : Json} (hknown : name ∈ names fields.members)
    (hpart : part name (.ofJson value) (.ofJson value')) :
    (decoder record fields).Follows origin (.ofJson (.obj (before ++ (name, value) :: after)))
      (.ofJson (.obj (before ++ (name, value') :: after))) := by
  rw [Reading.ofJson, Reading.ofJson]
  have hfirst := Reading.ofFields_middle before after name value
  have hback := Reading.ofFields_middle before after name value'
  exact ((h.reordered hfirst).trans (h.part_changed hknown hpart)).trans (h.reordered hback.symm)

end Decode.Fields.Lenient

end AnalysisDesk
