/-
What decoding a record from an object depends on.

An object is decoded if its entries are tidy, which says nothing about their order: every known
name stands there at most once, every value passes its own check.  Then the value is built, by
looking names up.  So the order of the entries does not matter, and an entry can be looked at
as if it were the first one.

What may be put otherwise without changing what is built is said member by member (`Alike`) and
carried through `<$>` and `<*>` (`Lenient`), so that a record's proof is written like its decoder.
-/
import AnalysisDesk.Json.Decode
import Mathlib.Data.List.Nodup
import Mathlib.Data.List.Perm.Basic

namespace AnalysisDesk

open Decode

variable {α β : Type} {origin : Origin}

/-! ### Looking up -/

theorem lookup_eq_none_of_not_mem {name : String} {entries : List (String × β)}
    (h : name ∉ entries.map Prod.fst) : entries.lookup name = none := by
  refine List.lookup_eq_none_iff.mpr fun entry hentry => bne_iff_ne.mpr ?_
  rintro rfl
  exact h (List.mem_map_of_mem hentry)

/-- Behind an entry of another name everything is found as before. -/
theorem lookup_cons_of_ne {name other : String} {value : β} {entries : List (String × β)}
    (hne : other ≠ name) : List.lookup other ((name, value) :: entries) = entries.lookup other := by
  have hother : (other == name) = false := by simp [hne]
  rw [List.lookup_cons, hother]

/-- The order of a list does not matter to someone who looks up a name that stands there once. -/
theorem lookup_eq_of_perm {name : String} {entries entries' : List (String × β)}
    (h : entries.Perm entries') (honce : (entries.map Prod.fst).count name ≤ 1) :
    entries.lookup name = entries'.lookup name := by
  induction h with
  | nil => rfl
  | cons entry _ ih =>
      obtain ⟨key, value⟩ := entry
      rw [List.map_cons, List.count_cons] at honce
      rw [List.lookup_cons, List.lookup_cons, ih (by omega)]
  | swap first second rest =>
      obtain ⟨key, value⟩ := first
      obtain ⟨key', value'⟩ := second
      by_cases hkey : name = key
      · by_cases hkey' : name = key'
        · subst hkey hkey'
          simp at honce
        · rw [lookup_cons_of_ne hkey', List.lookup_cons, List.lookup_cons, lookup_cons_of_ne hkey']
      · rw [List.lookup_cons, lookup_cons_of_ne hkey, lookup_cons_of_ne hkey, List.lookup_cons]
  | trans h _ ih ih' =>
      have hcount := (h.map Prod.fst).count_eq name
      rw [ih honce, ih' (by omega)]

theorem lookup_eq_some_of_mem {name : String} {value : β} {entries : List (String × β)}
    (hnames : (entries.map Prod.fst).Nodup) (h : (name, value) ∈ entries) :
    entries.lookup name = some value := by
  obtain ⟨before, after, rfl⟩ := List.append_of_mem h
  have honce := List.nodup_iff_count_le_one.mp hnames name
  rw [lookup_eq_of_perm List.perm_middle honce, List.lookup_cons_self]

/-! ### Documents -/

namespace Json

variable {name : String} {value : Json} {fields : List (String × Json)}

theorem insertField_perm (h : name ∉ fields.map Prod.fst) :
    (insertField name value fields).Perm ((name, value) :: fields) := by
  induction fields with
  | nil => exact .refl _
  | cons field rest ih =>
      rw [List.map_cons, List.mem_cons, not_or] at h
      rw [insertField]
      by_cases hbelow : name < field.1
      · rw [if_pos hbelow]
      · rw [if_neg hbelow, if_neg h.1]
        exact ((ih h.2).cons field).trans (.swap _ _ _)

/-- An object of fields with different names has these fields, in some order. -/
theorem object_perm (h : (fields.map Prod.fst).Nodup) :
    ∃ sorted, object fields = .obj sorted ∧ sorted.Perm fields := by
  suffices hfold : ∀ acc : List (String × Json), ((acc ++ fields).map Prod.fst).Nodup →
      (fields.foldl (fun acc field => insertField field.1 field.2 acc) acc).Perm (acc ++ fields) from
    ⟨_, rfl, hfold [] h⟩
  clear h
  induction fields with
  | nil => intro acc _; rw [List.append_nil]; exact .refl _
  | cons field rest ih =>
      intro acc hnames
      have hmiddle : (acc ++ field :: rest).Perm (field :: (acc ++ rest)) := List.perm_middle
      have hnames' := ((hmiddle.map Prod.fst).nodup_iff).mp hnames
      rw [List.map_cons, List.nodup_cons, List.map_append, List.mem_append, not_or] at hnames'
      have hfirst : (insertField field.1 field.2 acc).Perm (field :: acc) :=
        insertField_perm hnames'.1.1
      have hinsert := hfirst.append_right rest
      refine (ih _ ?_).trans (hinsert.trans hmiddle.symm)
      rw [(hinsert.map Prod.fst).nodup_iff]
      exact ((hmiddle.map Prod.fst).nodup_iff).mp hnames

end Json

namespace Reading

theorem ofFields_eq_map (fields : List (String × Json)) :
    ofFields fields = fields.map fun field => (field.1, ofJson field.2) := by
  induction fields with
  | nil => rfl
  | cons field rest ih => rw [ofFields, ih, List.map_cons]

/-- A document is read under its own names. -/
theorem map_fst_ofFields (fields : List (String × Json)) :
    (ofFields fields).map Prod.fst = fields.map Prod.fst := by
  rw [ofFields_eq_map, List.map_map]
  rfl

/-- A field anywhere in an object is read as if it were the first. -/
theorem ofFields_middle (before after : List (String × Json)) (name : String) (value : Json) :
    (ofFields (before ++ (name, value) :: after)).Perm
      ((name, ofJson value) :: ofFields (before ++ after)) := by
  rw [ofFields_eq_map, ofFields_eq_map]
  exact List.perm_middle.map _

theorem ofItems_eq_map (items : List Json) : ofItems items = items.map ofJson := by
  induction items with
  | nil => rfl
  | cons item rest ih => rw [ofItems, ih, List.map_cons]

mutual

/-- The reading of a document never breaks. -/
theorem isSound_ofJson : ∀ value : Json, (ofJson value).isSound = true
  | .null | .bool _ | .int _ | .float _ | .str _ => rfl
  | .arr items => by
      rw [ofJson, isSound, allSound_ofItems items]
      rfl
  | .obj fields => by
      rw [ofJson, isSound, fieldsSound_ofFields fields]
      rfl

theorem allSound_ofItems : ∀ items : List Json, allSound (ofItems items) = true
  | [] => rfl
  | item :: rest => by
      rw [ofItems, allSound, isSound_ofJson item, allSound_ofItems rest]
      rfl

theorem fieldsSound_ofFields : ∀ fields : List (String × Json), fieldsSound (ofFields fields) = true
  | [] => rfl
  | (_, value) :: rest => by
      rw [ofFields, fieldsSound, isSound_ofJson value, fieldsSound_ofFields rest]
      rfl

end

end Reading

namespace Decode.Fields

/-! ### Building -/

theorem build_map_eq_ok_iff {f : α → β} {fields : Fields α} {present : String → Option Reading}
    {b : β} :
    (f <$> fields).build origin present = .ok b ↔
      ∃ a, fields.build origin present = .ok a ∧ f a = b := by
  show (fields.build origin present).map f = .ok b ↔ _
  cases fields.build origin present with
  | error fault => simp [Except.map]
  | ok a => simp [Except.map]

theorem build_seq_eq_ok_iff {f : Fields (α → β)} {fields : Fields α}
    {present : String → Option Reading} {b : β} :
    (f <*> fields).build origin present = .ok b ↔
      ∃ g a, f.build origin present = .ok g ∧ fields.build origin present = .ok a ∧ g a = b := by
  cases hf : f.build origin present with
  | error fault => simp [Seq.seq, hf]
  | ok g =>
      cases ha : fields.build origin present with
      | error fault => simp [Seq.seq, hf, ha]
      | ok a => simp [Seq.seq, hf, ha]

theorem build_map {f : α → β} {fields : Fields α} {present : String → Option Reading} {a : α}
    (h : fields.build origin present = .ok a) : (f <$> fields).build origin present = .ok (f a) :=
  build_map_eq_ok_iff.mpr ⟨a, h, rfl⟩

theorem build_seq {f : Fields (α → β)} {fields : Fields α} {present : String → Option Reading}
    {g : α → β} {a : α} (hf : f.build origin present = .ok g)
    (h : fields.build origin present = .ok a) : (f <*> fields).build origin present = .ok (g a) :=
  build_seq_eq_ok_iff.mpr ⟨g, a, hf, h, rfl⟩

theorem faultOf_eq_none_iff {d : Decoder α} {reading : Reading} :
    faultOf d origin reading = none ↔ ∃ a, d origin reading = .ok a := by
  unfold faultOf
  cases d origin reading with
  | error fault => simp
  | ok a => simp

/-- A member that a list may leave out as well reads as null where it is missing. -/
theorem build_spare {name : String} {d : Decoder α} {present : String → Option Reading} :
    (spare name d).build origin present = d.nullable origin ((present name).getD .null) := by
  unfold spare defaulted
  dsimp only
  cases present name with
  | none => rfl
  | some reading => rfl

/-! ### Tidy objects -/

variable {members : List Member} {entries entries' : List (String × Reading)}
  {entry : String × Reading}

/-- The value of an entry is one that its member can read, or, under an unknown name, one that can
be passed over. -/
def Passes (members : List Member) (origin : Origin) (entry : String × Reading) : Prop :=
  match members.find? fun member => member.name == entry.1 with
  | none => entry.2.isSound = true
  | some member => member.fault? origin entry.2 = none

/-- The names that members have. -/
def names (members : List Member) : List String := members.map (·.name)

/-- The names of entries that are names of members. -/
def knownNames (members : List Member) (entries : List (String × Reading)) : List String :=
  (entries.map Prod.fst).filter fun name => name ∈ names members

/-- The entries of an object that can be decoded. -/
structure Tidy (members : List Member) (origin : Origin) (entries : List (String × Reading)) :
    Prop where
  passes : ∀ entry ∈ entries, Passes members origin entry
  once : (knownNames members entries).Nodup

theorem find?_eq_none_iff {name : String} :
    (members.find? fun member => member.name == name) = none ↔ name ∉ names members := by
  simp only [List.find?_eq_none, names, List.mem_map, beq_iff_eq]
  constructor
  · rintro h ⟨member, hmember, rfl⟩
    exact h member hmember rfl
  · exact fun h member hmember hname => h ⟨member, hmember, hname⟩

theorem passes_of_unknown (h : entry.1 ∉ names members) :
    Passes members origin entry ↔ entry.2.isSound = true := by
  unfold Passes
  rw [find?_eq_none_iff.mpr h]

/-- Under a known name passes what the first member of that name can read. -/
theorem exists_member_of_known (origin : Origin) {name : String} (h : name ∈ names members) :
    ∃ member ∈ members, member.name = name ∧
      ∀ value, Passes members origin (name, value) ↔ member.fault? origin value = none := by
  cases hfound : members.find? fun member => member.name == name with
  | none => exact absurd h (find?_eq_none_iff.mp hfound)
  | some member =>
      have hname := List.find?_some hfound
      refine ⟨member, List.mem_of_find?_eq_some hfound, eq_of_beq hname, fun value => ?_⟩
      unfold Passes
      rw [hfound]

theorem knownNames_cons_of_known (h : entry.1 ∈ names members) :
    knownNames members (entry :: entries) = entry.1 :: knownNames members entries :=
  List.filter_cons_of_pos (by simpa using h)

theorem knownNames_cons_of_unknown (h : entry.1 ∉ names members) :
    knownNames members (entry :: entries) = knownNames members entries :=
  List.filter_cons_of_neg (by simpa using h)

theorem mem_knownNames {name : String} :
    name ∈ knownNames members entries ↔ name ∈ entries.map Prod.fst ∧ name ∈ names members := by
  rw [knownNames, List.mem_filter, decide_eq_true_iff]

theorem tidy_nil : Tidy members origin [] :=
  ⟨fun _ hmem => (List.not_mem_nil hmem).elim, List.nodup_nil⟩

/-- An entry in front leaves an object tidy if its value passes and its name is not taken. -/
theorem tidy_cons_iff :
    Tidy members origin (entry :: entries) ↔
      Passes members origin entry ∧
        (entry.1 ∈ names members → entry.1 ∉ entries.map Prod.fst) ∧ Tidy members origin entries := by
  by_cases hknown : entry.1 ∈ names members
  · have hcons : knownNames members (entry :: entries) = entry.1 :: knownNames members entries :=
      knownNames_cons_of_known hknown
    constructor
    · rintro ⟨hpasses, honce⟩
      rw [hcons, List.nodup_cons, mem_knownNames] at honce
      have hfresh : entry.1 ∉ entries.map Prod.fst := fun hmem => honce.1 ⟨hmem, hknown⟩
      obtain ⟨hfirst, hrest⟩ := List.forall_mem_cons.mp hpasses
      exact ⟨hfirst, fun _ => hfresh, hrest, honce.2⟩
    · rintro ⟨hfirst, hfresh, hrest, honce⟩
      refine ⟨List.forall_mem_cons.mpr ⟨hfirst, hrest⟩, ?_⟩
      rw [hcons, List.nodup_cons, mem_knownNames]
      exact ⟨fun hmem => hfresh hknown hmem.1, honce⟩
  · have hcons : knownNames members (entry :: entries) = knownNames members entries :=
      knownNames_cons_of_unknown hknown
    constructor
    · rintro ⟨hpasses, honce⟩
      rw [hcons] at honce
      obtain ⟨hfirst, hrest⟩ := List.forall_mem_cons.mp hpasses
      exact ⟨hfirst, fun h => absurd h hknown, hrest, honce⟩
    · rintro ⟨hfirst, -, hrest, honce⟩
      exact ⟨List.forall_mem_cons.mpr ⟨hfirst, hrest⟩, hcons ▸ honce⟩

theorem Tidy.perm (h : Tidy members origin entries) (hperm : entries.Perm entries') :
    Tidy members origin entries' where
  passes entry hentry := h.passes entry (hperm.mem_iff.mpr hentry)
  once := (((hperm.map Prod.fst).filter _).nodup_iff).mp h.once

/-- A known name stands in a tidy object at most once. -/
theorem Tidy.count_le_one (h : Tidy members origin entries) {name : String}
    (hknown : name ∈ names members) : (entries.map Prod.fst).count name ≤ 1 := by
  have honce := List.nodup_iff_count_le_one.mp h.once name
  rwa [knownNames, List.count_filter (by simpa using hknown)] at honce

/-- The scan of an object finds no fault exactly if the object is tidy and none of its names has
been met before. -/
theorem objectFault?_eq_none_iff {whole : Bool} {seen : List String} :
    objectFault? members origin whole seen entries = none ↔
      whole = true ∧ Tidy members origin entries ∧
        ∀ name ∈ knownNames members entries, name ∉ seen := by
  induction entries generalizing seen with
  | nil =>
      have hnone : knownNames members [] = [] := rfl
      cases whole <;> simp [objectFault?, tidy_nil, hnone]
  | cons entry rest ih =>
      obtain ⟨name, value⟩ := entry
      rw [tidy_cons_iff]
      unfold objectFault? Passes
      dsimp only
      cases hfound : members.find? fun member => member.name == name with
      | none =>
          have hunknown : name ∉ names members := find?_eq_none_iff.mp hfound
          rw [knownNames_cons_of_unknown hunknown]
          cases hsound : value.isSound <;> simp [ih, hunknown]
      | some member =>
          have hknown : name ∈ names members := by
            by_contra hunknown
            rw [find?_eq_none_iff.mpr hunknown] at hfound
            exact nomatch hfound
          rw [knownNames_cons_of_known hknown]
          dsimp only
          by_cases hseen : name ∈ seen
          · simp [hseen]
          · cases hfault : member.fault? origin value with
            | some fault => simp [hseen]
            | none =>
                simp only [List.contains_eq_mem, hseen, decide_false, Bool.false_eq_true, if_false,
                  ih, List.mem_cons, forall_eq_or_imp, not_false_eq_true, true_and]
                constructor
                · rintro ⟨hwhole, htidy, hnew⟩
                  refine ⟨hwhole, ⟨fun _ hmem => ?_, htidy⟩, fun other hother => ?_⟩
                  · exact hnew name (mem_knownNames.mpr ⟨hmem, hknown⟩) (Or.inl rfl)
                  · exact fun hmem => hnew other hother (Or.inr hmem)
                · rintro ⟨hwhole, ⟨hfresh, htidy⟩, hnew⟩
                  refine ⟨hwhole, htidy, fun other hother => ?_⟩
                  rintro (rfl | hmem)
                  · exact hfresh hknown (mem_knownNames.mp hother).1
                  · exact hnew other hother hmem

/-- An object is decoded exactly if it is tidy and the record can be built from what stands under
its names. -/
theorem decoder_obj_eq_ok_iff {record : String} {fields : Fields α} {whole : Bool} {a : α} :
    decoder record fields origin (.obj entries whole) = .ok a ↔
      whole = true ∧ Tidy fields.members origin entries ∧
        fields.build origin (fun name => entries.lookup name) = .ok a := by
  have hscan : objectFault? fields.members origin whole [] entries = none ↔
      whole = true ∧ Tidy fields.members origin entries := by
    simp [objectFault?_eq_none_iff]
  unfold decoder
  dsimp only
  cases hfault : objectFault? fields.members origin whole [] entries with
  | none =>
      obtain ⟨hwhole, htidy⟩ := hscan.mp hfault
      simp [hwhole, htidy]
  | some fault =>
      simp only [reduceCtorEq, false_iff]
      rintro ⟨hwhole, htidy, -⟩
      exact nomatch hfault.symm.trans (hscan.mpr ⟨hwhole, htidy⟩)

end Decode.Fields

end AnalysisDesk
