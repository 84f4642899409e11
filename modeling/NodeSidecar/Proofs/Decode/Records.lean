/-
**Objects that are written are read back field by field.**

An object has its members in the order of their names, whatever order they were written in.  A
record that is read from it takes each field from the member of its name, so a record whose members
are all accepted by their fields is built from exactly these values.  Lists, options and numbers
are read back from what is written for them.

The results hold of document values under any words for a list that is too long; that covers
documents as they are read, and values that were read before their type was known.

Main definitions:

* `Json.Canonical` — members are ascending by name, each name once, in all objects of a value;
* `Slot.Accepts` — a member has the name of a field, and a value that the field accepts.

Main results:

* `Json.exists_object` — an object has the members that it is made of, ascending by name;
* `record_object` — a record is read from the object of its members;
* `record_object_of_unknown` — members that no field has the name of are passed over;
* `tagged_object` — a record that names its form is read as the form and the other members;
* `list_arr`, `option_ofOption`, `unsigned_ofNat` — values of common types are read back.
-/

import Mathlib.Data.List.Forall2
import NodeSidecar.Cloud.Document

set_option autoImplicit false

namespace NodeSidecar

/-! ### Objects -/

namespace Json

/-- Members are ascending by name in all objects of a value, so a name stands there once. -/
inductive Canonical : Json → Prop
  | null : Canonical .null
  | bool (b : Bool) : Canonical (.bool b)
  | int (n : Int) : Canonical (.int n)
  | real (x : Double) : Canonical (.real x)
  | str (s : String) : Canonical (.str s)
  | arr {xs : List Json} : (∀ x ∈ xs, Canonical x) → Canonical (.arr xs)
  | obj {members : List (String × Json)} : (members.map Prod.fst).Pairwise (· < ·) →
      (∀ m ∈ members, Canonical m.2) → Canonical (.obj members)

variable {name : String} {value : Json} {members sorted : List (String × Json)}

/-- The names are those of an ascending list with one more text. -/
theorem map_fst_insertMember :
    (insertMember name value sorted).map Prod.fst
      = CidrSet.insertElement name (sorted.map Prod.fst) := by
  induction sorted with
  | nil => rfl
  | cons m ms ih =>
      simp only [insertMember, List.map_cons, CidrSet.insertElement]
      split
      · rfl
      · split
        · next h => simp [h]
        · simp [ih]

theorem insertMember_perm (h : name ∉ sorted.map Prod.fst) :
    (insertMember name value sorted).Perm ((name, value) :: sorted) := by
  induction sorted with
  | nil => exact .refl _
  | cons m ms ih =>
      obtain ⟨hm, hms⟩ : name ≠ m.1 ∧ name ∉ ms.map Prod.fst := by simpa using h
      simp only [insertMember, hm, if_false]
      split
      · exact .refl _
      · exact ((ih hms).cons m).trans (.swap ..)

theorem ascending_foldl_insertMember (h : (sorted.map Prod.fst).Pairwise (· < ·)) :
    ((members.foldl (fun ms m => insertMember m.1 m.2 ms) sorted).map Prod.fst).Pairwise
      (· < ·) := by
  induction members generalizing sorted with
  | nil => exact h
  | cons m ms ih =>
      refine ih ?_
      rw [map_fst_insertMember]
      exact CidrSet.ascending_insertElement h

theorem foldl_insertMember_perm (h : ((sorted ++ members).map Prod.fst).Nodup) :
    (members.foldl (fun ms m => insertMember m.1 m.2 ms) sorted).Perm (sorted ++ members) := by
  induction members generalizing sorted with
  | nil => simp
  | cons m ms ih =>
      have hmiddle : (m :: (sorted ++ ms)).Perm (sorted ++ m :: ms) := List.perm_middle.symm
      have hnodup := (hmiddle.map Prod.fst).nodup_iff.2 h
      have hm : m.1 ∉ sorted.map Prod.fst := by
        intro hin
        refine (List.nodup_cons.1 hnodup).1 ?_
        simp only [List.map_append]
        exact List.mem_append_left _ hin
      have hinsert : (insertMember m.1 m.2 sorted).Perm (m :: sorted) := insertMember_perm hm
      have hall : (insertMember m.1 m.2 sorted ++ ms).Perm (sorted ++ m :: ms) :=
        (hinsert.append_right ms).trans hmiddle
      exact (ih ((hall.map Prod.fst).nodup_iff.2 h)).trans hall

/-- An object has the members that it is made of, ascending by name. -/
theorem exists_object (h : (members.map Prod.fst).Nodup) :
    ∃ sorted, object members = .obj sorted ∧ sorted.Perm members
      ∧ (sorted.map Prod.fst).Pairwise (· < ·) :=
  ⟨_, rfl, foldl_insertMember_perm h, ascending_foldl_insertMember (by simp)⟩

theorem canonical_object (h : (members.map Prod.fst).Nodup)
    (hvalues : ∀ m ∈ members, m.2.Canonical) : (object members).Canonical := by
  obtain ⟨sorted, hobject, hperm, hascending⟩ := exists_object h
  rw [hobject]
  exact .obj hascending fun m hm => hvalues m (hperm.mem_iff.1 hm)

attribute [simp] Canonical.bool Canonical.str

@[simp] theorem canonical_ofNat (n : Nat) : (ofNat n).Canonical := .int n

theorem canonical_arr {α : Type} {f : α → Json} (h : ∀ a, (f a).Canonical) (as : List α) :
    (arr (as.map f)).Canonical := by
  refine .arr fun x hx => ?_
  obtain ⟨a, -, rfl⟩ := List.mem_map.1 hx
  exact h a

@[simp] theorem canonical_ofStrings (ss : List String) : (ofStrings ss).Canonical :=
  canonical_arr .str ss

theorem canonical_ofOption {α : Type} {f : α → Json} (h : ∀ a, (f a).Canonical) (a? : Option α) :
    (ofOption f a?).Canonical := by
  cases a? with
  | none => exact .null
  | some a => exact h a

@[simp] theorem canonical_ofOption_str (s? : Option String) : (ofOption str s?).Canonical :=
  canonical_ofOption .str s?

end Json

namespace Data

theorem ofElements_eq_map (xs : List Json) : ofElements xs = xs.map ofJson := by
  induction xs with
  | nil => rfl
  | cons x xs ih => simp [ofElements, ih]

end Data

namespace Decode

variable {α : Type} {excess : Nat → Nat → Fault}

/-! ### Records -/

/-- A member has the name of a field, and a value that the field accepts. -/
def Slot.Accepts (slot : Slot Data) (m : String × Json) : Prop :=
  slot.name = m.1 ∧ slot.check (.ofJson m.2) = .ok ()

@[simp] theorem Field.slot_accepts_iff {f : Field Data α} {m : String × Json} :
    f.slot.Accepts m ↔ f.name = m.1 ∧ ∃ a, f.read (.ofJson m.2) = .ok a := by
  refine and_congr_right fun _ => ?_
  cases h : f.read (.ofJson m.2) <;> simp [slot, h, Except.map]

/-- Which words there are for a list that is too long does not matter to what is read. -/
theorem exists_format_data : ∃ excess, Format.data = .ofExcess excess := ⟨_, rfl⟩

theorem format_at (d : Data) (r : Decoded α) : (Format.ofExcess excess).at d r = r := by
  cases r <;> rfl

variable {slots : List (Slot Data)} {members : List (String × Json)}

/-- Each name finds its own entry. -/
theorem lookup_of_mem {β : Type} {entries : List (String × β)} {e : String × β}
    (h : (entries.map Prod.fst).Nodup) (he : e ∈ entries) : entries.lookup e.1 = some e.2 := by
  obtain ⟨before, after, rfl⟩ := List.append_of_mem he
  refine List.lookup_eq_some_iff.2 ⟨before, after, rfl, fun p hp => bne_iff_ne.2 fun heq => ?_⟩
  have hnodup := List.perm_middle.nodup_iff.1 (List.map_append ▸ h)
  exact (List.nodup_cons.1 hnodup).1 (heq ▸ List.mem_append_left _ (List.mem_map_of_mem hp))

/-- What is found of the members: those that a field has the name of, the last one first. -/
def foundOf (slots : List (Slot Data)) (members : List (String × Json)) : List (String × Data) :=
  ((members.filter fun m => (slotOf? slots (.name m.1)).isSome).map
    fun m => (m.1, Data.ofJson m.2)).reverse

theorem readEntries_ofMembers {seen : List (String × Data)}
    (hslots : ∀ m ∈ members, ∀ slot, slotOf? slots (.name m.1) = some slot → slot.Accepts m)
    (hnames : (seen.map Prod.fst ++ members.map Prod.fst).Nodup) :
    readEntries (.ofExcess excess) slots (Data.ofMembers members) seen
      = .ok (foundOf slots members ++ seen) := by
  induction members generalizing seen with
  | nil => rfl
  | cons m ms ih =>
      have hms := fun m' hm' => hslots m' (List.mem_cons_of_mem m hm')
      have hmiddle : (seen.map Prod.fst ++ m.1 :: ms.map Prod.fst).Perm
          (m.1 :: (seen.map Prod.fst ++ ms.map Prod.fst)) := List.perm_middle
      have hnames' := hmiddle.nodup_iff.1 hnames
      cases hslot : slotOf? slots (.name m.1) with
      | none =>
          have hstep : readEntries (.ofExcess excess) slots (Data.ofMembers (m :: ms)) seen
              = readEntries (.ofExcess excess) slots (Data.ofMembers ms) seen := by
            simp only [Data.ofMembers, readEntries, Format.ofExcess, dataKey, bind, Except.bind,
              hslot]
          rw [hstep, ih hms (List.nodup_cons.1 hnames').2]
          simp [foundOf, hslot]
      | some slot =>
          obtain ⟨hname, hcheck⟩ := hslots m (List.mem_cons_self ..) slot hslot
          have hseen : seen.lookup m.1 = none := by
            refine List.lookup_eq_none_iff.2 fun p hp => bne_iff_ne.2 fun heq => ?_
            refine (List.nodup_cons.1 hnames').1 (List.mem_append_left _ ?_)
            exact heq ▸ List.mem_map_of_mem hp
          have hstep : readEntries (.ofExcess excess) slots (Data.ofMembers (m :: ms)) seen
              = readEntries (.ofExcess excess) slots (Data.ofMembers ms)
                  ((m.1, Data.ofJson m.2) :: seen) := by
            simp only [Data.ofMembers, readEntries, Format.ofExcess, dataKey, bind, Except.bind,
              hslot, hname, hcheck, hseen, Option.isSome_none, if_neg Bool.false_ne_true]
          rw [hstep, ih hms (by simpa using hnames')]
          simp [foundOf, hslot]

/-- The slots of the members are found by name. -/
theorem exists_slotOf (hslots : List.Forall₂ Slot.Accepts slots members)
    (hnames : (members.map Prod.fst).Nodup) {m : String × Json} (hm : m ∈ members) :
    ∃ slot, slotOf? slots (.name m.1) = some slot ∧ slot.Accepts m := by
  induction hslots with
  | nil => cases hm
  | @cons slot first slots ms haccepts _ ih =>
      obtain ⟨hfirst, hms⟩ := List.nodup_cons.1 hnames
      rcases List.mem_cons.1 hm with rfl | hm
      · exact ⟨slot, by simp [slotOf?, haccepts.1], haccepts⟩
      · have hne : (slot.name == m.1) = false := by
          refine beq_eq_false_iff_ne.2 fun heq => hfirst ?_
          exact haccepts.1 ▸ heq ▸ List.mem_map_of_mem hm
        obtain ⟨slot', hfind, haccepts'⟩ := ih hms hm
        refine ⟨slot', ?_, haccepts'⟩
        simpa only [slotOf?, List.find?_cons, hne] using hfind

variable {type : String} {build : Fields Data → Decoded α} {a : α}

/-- A record is built from what is found of the members, each of which is accepted. -/
theorem record_map (hnames : (members.map Prod.fst).Nodup)
    (hslots : ∀ m ∈ members, ∀ slot, slotOf? slots (.name m.1) = some slot → slot.Accepts m) :
    record (.ofExcess excess) type slots (.map (Data.ofMembers members)) build
      = build ⟨foundOf slots members, .missingField⟩ := by
  have hread : readEntries (.ofExcess excess) slots (Data.ofMembers members) []
      = .ok (foundOf slots members ++ []) := readEntries_ofMembers hslots hnames
  rw [List.append_nil] at hread
  have hbuild : (do
      build ⟨← readEntries (.ofExcess excess) slots (Data.ofMembers members) [], .missingField⟩)
        = build ⟨foundOf slots members, .missingField⟩ := by rw [hread]; rfl
  exact (format_at ..).trans hbuild

/-- A record is read from its members in any order. -/
theorem record_ofMembers {given : List (String × Json)} (hperm : given.Perm members)
    (hnames : (members.map Prod.fst).Nodup)
    (hslots : List.Forall₂ Slot.Accepts slots members)
    (hbuild : ∀ found : Fields Data,
      (∀ m ∈ members, found.values.lookup m.1 = some (.ofJson m.2)) → build found = .ok a) :
    record (.ofExcess excess) type slots (.map (Data.ofMembers given)) build = .ok a := by
  have hgiven : (given.map Prod.fst).Nodup := (hperm.map Prod.fst).nodup_iff.2 hnames
  have haccepts : ∀ m ∈ given, ∃ slot, slotOf? slots (.name m.1) = some slot ∧ slot.Accepts m :=
    fun m hm => exists_slotOf hslots hnames (hperm.mem_iff.1 hm)
  have hfound : foundOf slots given = (given.map fun m => (m.1, Data.ofJson m.2)).reverse := by
    rw [foundOf, List.filter_eq_self.2]
    intro m hm
    obtain ⟨slot, hslot, -⟩ := haccepts m hm
    rw [hslot, Option.isSome_some]
  rw [record_map hgiven fun m hm slot hslot => ?_]
  · refine hbuild _ fun m hm => ?_
    rw [hfound]
    refine lookup_of_mem (e := (m.1, Data.ofJson m.2)) ?_ ?_
    · rw [List.map_reverse, (List.reverse_perm _).nodup_iff, List.map_map]
      exact hgiven
    · exact List.mem_reverse.2 (List.mem_map_of_mem (hperm.mem_iff.2 hm))
  · obtain ⟨slot', hslot', h⟩ := haccepts m hm
    exact Option.some.inj (hslot'.symm.trans hslot) ▸ h

/-- A record is read from the object of its members. -/
theorem record_object (hnames : (members.map Prod.fst).Nodup)
    (hslots : List.Forall₂ Slot.Accepts slots members)
    (hbuild : ∀ found : Fields Data,
      (∀ m ∈ members, found.values.lookup m.1 = some (.ofJson m.2)) → build found = .ok a) :
    record (.ofExcess excess) type slots (.ofJson (.object members)) build = .ok a := by
  obtain ⟨sorted, hobject, hperm, -⟩ := Json.exists_object hnames
  rw [hobject]
  exact record_ofMembers hperm hnames hslots hbuild

/-- A record whose members all have no slot is built from nothing. -/
theorem record_object_of_unknown (hnames : (members.map Prod.fst).Nodup)
    (hunknown : ∀ m ∈ members, slotOf? slots (.name m.1) = none) :
    record (.ofExcess excess) type slots (.ofJson (.object members)) build
      = build ⟨[], .missingField⟩ := by
  obtain ⟨sorted, hobject, hperm, -⟩ := Json.exists_object hnames
  have hsorted : (sorted.map Prod.fst).Nodup := (hperm.map Prod.fst).nodup_iff.2 hnames
  have hnone : ∀ m ∈ sorted, slotOf? slots (.name m.1) = none := fun m hm =>
    hunknown m (hperm.mem_iff.1 hm)
  have hfound : foundOf slots sorted = [] := by
    rw [foundOf, List.filter_eq_nil_iff.2, List.map_nil, List.reverse_nil]
    intro m hm
    simp [hnone m hm]
  rw [hobject, Data.ofJson, record_map hsorted fun m hm slot hslot => ?_, hfound]
  rw [hnone m hm] at hslot
  cases hslot

/-! ### Records that name their form -/

variable {name : String} {readName : Data → Decoded α}

theorem readForm_of_found {form : α} {seen : List (Data × Data)}
    (h : name ∉ members.map Prod.fst) :
    readForm (.ofExcess excess) name readName (Data.ofMembers members) (some form) seen
      = .ok (form, .map (seen.reverse ++ Data.ofMembers members)) := by
  induction members generalizing seen with
  | nil => simp [Data.ofMembers, readForm]
  | cons m ms ih =>
      obtain ⟨hm, hms⟩ : name ≠ m.1 ∧ name ∉ ms.map Prod.fst := by simpa using h
      have hkey : ¬(Data.text m.1).text? = some name := fun heq => hm (Option.some.inj heq).symm
      have hstep : readForm (.ofExcess excess) name readName (Data.ofMembers (m :: ms)) (some form)
          seen = readForm (.ofExcess excess) name readName (Data.ofMembers ms) (some form)
            ((.text m.1, Data.ofJson m.2) :: seen) := by
        simp only [Data.ofMembers, readForm, Format.ofExcess, bind, Except.bind, if_neg hkey]
      rw [hstep, ih hms]
      simp [Data.ofMembers]

/-- The form is read from the member of its name, and the others are left. -/
theorem readForm_ofMembers {form : α} {v : Json} {seen : List (Data × Data)}
    (hnames : (members.map Prod.fst).Nodup) (hmem : (name, v) ∈ members)
    (hform : readName (.ofJson v) = .ok form) :
    readForm (.ofExcess excess) name readName (Data.ofMembers members) none seen
      = .ok (form, .map (seen.reverse
          ++ Data.ofMembers (members.filter fun m => m.1 != name))) := by
  induction members generalizing seen with
  | nil => cases hmem
  | cons m ms ih =>
      obtain ⟨hm, hms⟩ := List.nodup_cons.1 hnames
      by_cases hname : m.1 = name
      · have hv : m.2 = v := by
          rcases List.mem_cons.1 hmem with rfl | hin
          · rfl
          · exact absurd (List.mem_map_of_mem (f := Prod.fst) hin) (hname ▸ hm)
        have hothers : (ms.filter fun m => m.1 != name) = ms :=
          List.filter_eq_self.2 fun m' hm' => bne_iff_ne.2 fun heq =>
            hm (hname ▸ heq ▸ List.mem_map_of_mem hm')
        have hkey : (Data.text m.1).text? = some name := congrArg some hname
        have hstep : readForm (.ofExcess excess) name readName (Data.ofMembers (m :: ms)) none seen
            = readForm (.ofExcess excess) name readName (Data.ofMembers ms) (some form) seen := by
          simp only [Data.ofMembers, readForm, Format.ofExcess, bind, Except.bind, if_pos hkey, hv,
            hform, Option.isSome_none, if_neg Bool.false_ne_true]
        rw [hstep, readForm_of_found (hname ▸ hm)]
        simp [hname, hothers]
      · have hin : (name, v) ∈ ms := by
          rcases List.mem_cons.1 hmem with rfl | hin
          · exact absurd rfl hname
          · exact hin
        have hkey : ¬(Data.text m.1).text? = some name := fun heq => hname (Option.some.inj heq)
        have hstep : readForm (.ofExcess excess) name readName (Data.ofMembers (m :: ms)) none seen
            = readForm (.ofExcess excess) name readName (Data.ofMembers ms) none
                ((.text m.1, Data.ofJson m.2) :: seen) := by
          simp only [Data.ofMembers, readForm, Format.ofExcess, bind, Except.bind, if_neg hkey]
        rw [hstep, ih hms hin]
        simp [hname, Data.ofMembers]

/-- The form of an object is read from the member of its name, and the others are left in some
order. -/
theorem tagged_object {v : Json} {form : α}
    (hnames : (((name, v) :: members).map Prod.fst).Nodup)
    (hform : readName (.ofJson v) = .ok form) :
    ∃ others : List (String × Json), others.Perm members ∧
      tagged (.ofExcess excess) type name readName (.ofJson (.object ((name, v) :: members)))
        = .ok (form, .map (Data.ofMembers others)) := by
  obtain ⟨sorted, hobject, hperm, -⟩ := Json.exists_object hnames
  have hsorted : (sorted.map Prod.fst).Nodup := (hperm.map Prod.fst).nodup_iff.2 hnames
  have hmem : (name, v) ∈ sorted := hperm.mem_iff.2 (List.mem_cons_self ..)
  refine ⟨sorted.filter fun m => m.1 != name, ?_, ?_⟩
  · have hothers : (((name, v) :: members).filter fun m => m.1 != name) = members := by
      rw [List.filter_cons_of_neg (by simp)]
      refine List.filter_eq_self.2 fun m hm => bne_iff_ne.2 fun heq => ?_
      exact (List.nodup_cons.1 hnames).1 (List.mem_map.2 ⟨m, hm, heq⟩)
    exact hothers ▸ hperm.filter _
  · rw [hobject, Data.ofJson]
    exact (format_at ..).trans (readForm_ofMembers hsorted hmem hform)

/-! ### Values of common types -/

@[simp] theorem textAs_str (expected s : String) :
    (Format.ofExcess excess).textAs expected (.ofJson (.str s)) = .ok s := rfl

@[simp] theorem text_str (s : String) :
    (Format.ofExcess excess).text (.ofJson (.str s)) = .ok s := rfl

@[simp] theorem bool_bool (b : Bool) :
    (Format.ofExcess excess).bool (.ofJson (.bool b)) = .ok b := rfl

theorem unsigned_ofNat {limit n : Nat} {expected : String} (h : n ≤ limit) :
    (Format.ofExcess excess).unsigned limit expected (.ofJson (.ofNat n)) = .ok n := by
  have hbounds : (0 : Int) ≤ n ∧ (n : Int) ≤ limit := by omega
  simp only [Json.ofNat, Data.ofJson, Format.ofExcess, if_pos hbounds, Int.toNat_natCast]

@[simp] theorem port_ofNat (n : UInt16) :
    port (.ofExcess excess) (.ofJson (.ofNat n.toNat)) = .ok n := by
  rw [port, unsigned_ofNat (Nat.le_of_lt_succ n.toNat_lt)]
  exact congrArg Except.ok (UInt16.ofNat_toNat)

@[simp] theorem size_ofNat (n : UInt32) :
    size (.ofExcess excess) (.ofJson (.ofNat n.toNat)) = .ok n := by
  rw [size, unsigned_ofNat (Nat.le_of_lt_succ n.toNat_lt)]
  exact congrArg Except.ok (UInt32.ofNat_toNat)

@[simp] theorem amount_ofNat (n : UInt64) :
    amount (.ofExcess excess) (.ofJson (.ofNat n.toNat)) = .ok n := by
  rw [amount, unsigned_ofNat (Nat.le_of_lt_succ n.toNat_lt)]
  exact congrArg Except.ok (UInt64.ofNat_toNat)

variable {write : α → Json} {read : Data → Decoded α}

theorem list_arr (h : ∀ a, read (.ofJson (write a)) = .ok a) (as : List α) :
    list (.ofExcess excess) read (.ofJson (.arr (as.map write))) = .ok as := by
  have hmap : ((as.map write).map Data.ofJson).mapM read = .ok as := by
    induction as with
    | nil => rfl
    | cons a as ih =>
        simp only [List.map_cons, List.mapM_cons, h, ih]
        rfl
  rw [list, format_at, Data.ofJson, Data.ofElements_eq_map]
  exact hmap

theorem option_ofOption (h : ∀ a, read (.ofJson (write a)) = .ok a)
    (hnull : ∀ a, write a ≠ .null) (a? : Option α) :
    option (.ofExcess excess) read (.ofJson (.ofOption write a?)) = .ok a? := by
  cases a? with
  | none => rfl
  | some a =>
      have hnone : (Format.ofExcess excess).isNone (.ofJson (write a)) = .ok false := by
        cases hw : write a with
        | null => exact absurd hw (hnull a)
        | _ => rfl
      simp only [option, Json.ofOption, hnone, h]
      rfl

@[simp] theorem list_ofStrings (ss : List String) :
    list (.ofExcess excess) (Format.text (.ofExcess excess)) (.ofJson (.ofStrings ss)) = .ok ss :=
  list_arr text_str ss

@[simp] theorem option_text (s? : Option String) :
    option (.ofExcess excess) (Format.text (.ofExcess excess)) (.ofJson (.ofOption .str s?))
      = .ok s? :=
  option_ofOption text_str (fun _ h => Json.noConfusion h) s?

end Decode

end NodeSidecar
