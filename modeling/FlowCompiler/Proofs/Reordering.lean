import FlowCompiler.Keyword
import FlowCompiler.Proofs.Fields
import FlowCompiler.Proofs.ReadKeys
import FlowCompiler.Source
import Mathlib.Data.List.Forall2

/-!
# Reordered sources

Two sources are the same but for the order of keys that has no meaning. Whether it has one depends
on the role of a map in its source: `Role.order` says so for every role, and `Role.child` which role
the value under a key has. `Same` compares two values of one role, with all that stands below them.

What the compiler needs of this is said of maps: under every key there is the same in both
(`Reordered.get`), the keys are the same (`Reordered.keys_perm`), and where the order has a meaning
the entries are related one by one (`Reordered.keyed`, `Reordered.keyed_erase`).
-/

namespace FlowCompiler

/-! ## Roles -/

/-- What a value may be in a source. -/
inductive Role
  /-- The source itself. -/
  | source
  /-- A table of aliases. -/
  | aliases
  /-- The document of an executable. -/
  | document
  /-- A map of tasks, which may be an error section. -/
  | tasks
  /-- The body of a task, or what stands under the key of a loop. -/
  | body
  /-- What a task calls. -/
  | callee
  /-- A list of inputs, or the bindings of a call. -/
  | bindings
  /-- An item of a list of inputs or bindings. -/
  | item
  /-- The value of an input or a binding. -/
  | input
  /-- The targets of a task. -/
  | navigation
  /-- The action of an operation. -/
  | action
  /-- A method call. -/
  | javaAction
  /-- Anything else. -/
  | fixed
deriving DecidableEq

/-- The orders of the keys of a map that count as the same. -/
inductive KeyOrder
  /-- All of them. -/
  | any
  /-- Those in which only the place of one key differs. -/
  | anyOf (key : String)
  /-- No two of them. -/
  | authored

/-- Whether the entries are the same but for the order of the keys. -/
def KeyOrder.Allows : KeyOrder → Document → Document → Prop
  | any, left, right => left.Perm right
  | anyOf key, left, right => left.Perm right ∧ left.erase key = right.erase key
  | authored, left, right => left = right

namespace Role

/-- The orders of the keys of a map of the role that count as the same. -/
def order : Role → KeyOrder
  | source | aliases | document | body | input | navigation | javaAction => .any
  | tasks => .anyOf Keyword.onFailure
  | callee | bindings | item | action | fixed => .authored

/-- The role of what stands under a key of a map of the role. -/
def child : Role → String → Role
  | source, key =>
    if key = Keyword.importTable then aliases
    else if key ∈ [Keyword.flow, Keyword.operation, Keyword.systemProperty] then document
    else fixed
  | document, key =>
    if key = Keyword.inputs then bindings
    else if key = Keyword.workflow then tasks
    else if key = Keyword.action then action
    else fixed
  | tasks, key => if key = Keyword.onFailure then tasks else body
  | body, key =>
    if key = Keyword.loop then body
    else if key = Keyword.callee then callee
    else if key = Keyword.navigate then navigation
    else fixed
  | callee, _ => bindings
  | bindings, _ | item, _ => input
  | action, key => if key = Keyword.javaAction then javaAction else fixed
  | aliases, _ | input, _ | navigation, _ | javaAction, _ | fixed, _ => fixed

end Role

/-! ## Values that are the same -/

mutual

/-- Whether two values of a role are the same but for the order of keys that has no meaning. -/
inductive Same : Role → Json → Json → Prop
  | refl (role : Role) (value : Json) : Same role value value
  | map {role : Role} {left middle right : Document} : role ≠ .fixed →
      SameEntries role left middle → role.order.Allows middle right →
      Same role (.map left) (.map right)
  | list {left right : List Json} : SameItems left right →
      Same .bindings (.list left) (.list right)

/-- Whether the entries have the same keys in the same order, and what stands under each is the
same. -/
inductive SameEntries : Role → Document → Document → Prop
  | nil (role : Role) : SameEntries role [] []
  | cons {role : Role} {key : String} {value other : Json} {left right : Document} :
      Same (role.child key) value other → SameEntries role left right →
      SameEntries role ((key, value) :: left) ((key, other) :: right)

/-- Whether the items of lists of inputs or bindings are the same one by one. -/
inductive SameItems : List Json → List Json → Prop
  | nil : SameItems [] []
  | cons {item other : Json} {left right : List Json} : Same .item item other →
      SameItems left right → SameItems (item :: left) (other :: right)

end

/-- The values are the same in the role, and no map in the first has a key twice. -/
structure Like (role : Role) (value other : Json) : Prop where
  wellKeyed : value.WellKeyed
  same : Same role value other

/-- The entries of maps of the role have one key and values that are the same. -/
structure LikeEntry (role : Role) (entry other : String × Json) : Prop where
  key_eq : entry.1 = other.1
  value : Like (role.child entry.1) entry.2 other.2

/-- The maps of the role are the same: their entries are so one by one, but for an order that counts
as the same. -/
structure Reordered (role : Role) (left right : Document) : Prop where
  distinct : left.Distinct
  entries : ∃ middle, List.Forall₂ (LikeEntry role) left middle ∧ role.order.Allows middle right

theorem KeyOrder.Allows.refl (order : KeyOrder) (document : Document) :
    order.Allows document document := by
  cases order with
  | any => exact List.Perm.refl _
  | anyOf key => exact ⟨List.Perm.refl _, rfl⟩
  | authored => exact rfl

theorem KeyOrder.Allows.perm {order : KeyOrder} {left right : Document}
    (h : order.Allows left right) : left.Perm right := by
  cases order with
  | any => exact h
  | anyOf key => exact h.1
  | authored => rw [show left = right from h]

theorem SameEntries.forall₂ {role : Role} {left right : Document}
    (hkeyed : ∀ entry ∈ left, entry.2.WellKeyed) (h : SameEntries role left right) :
    List.Forall₂ (LikeEntry role) left right := by
  induction left generalizing right with
  | nil =>
    cases h
    exact .nil
  | cons entry rest ih =>
    obtain ⟨hentry, hrest⟩ := List.forall_mem_cons.mp hkeyed
    cases h with
    | cons hvalue hothers => exact .cons ⟨rfl, hentry, hvalue⟩ (ih hrest hothers)

theorem SameItems.forall₂ {left right : List Json} (hkeyed : ∀ item ∈ left, item.WellKeyed)
    (h : SameItems left right) : List.Forall₂ (Like .item) left right := by
  induction left generalizing right with
  | nil =>
    cases h
    exact .nil
  | cons item rest ih =>
    obtain ⟨hitem, hrest⟩ := List.forall_mem_cons.mp hkeyed
    cases h with
    | cons hother hothers => exact .cons ⟨hitem, hother⟩ (ih hrest hothers)

theorem LikeEntry.refl (role : Role) {entry : String × Json} (h : entry.2.WellKeyed) :
    LikeEntry role entry entry :=
  ⟨rfl, h, .refl _ _⟩

theorem Reordered.refl (role : Role) {document : Document}
    (h : (Json.map document).WellKeyed) :
    Reordered role document document := by
  obtain ⟨hdistinct, hentries⟩ := h.of_map
  refine ⟨hdistinct, document, ?_, .refl _ _⟩
  exact List.forall₂_same.mpr fun entry hentry => .refl role (hentries entry hentry)

theorem Reordered.nil (role : Role) : Reordered role [] [] :=
  ⟨List.nodup_nil, [], .nil, .refl _ _⟩

theorem SameEntries.refl (role : Role) (document : Document) :
    SameEntries role document document := by
  induction document with
  | nil => exact .nil role
  | cons entry rest ih => exact .cons (.refl _ _) ih

/-- The role of what stands under the key may be given. -/
theorem SameEntries.cons_of {role inner : Role} {key : String} {value other : Json}
    {left right : Document} (hchild : role.child key = inner) (hvalue : Same inner value other)
    (hrest : SameEntries role left right) :
    SameEntries role ((key, value) :: left) ((key, other) :: right) :=
  .cons (hchild ▸ hvalue) hrest

/-! ## Inversion -/

namespace Like

variable {role : Role} {value other : Json}

theorem eq_of_fixed (h : Like .fixed value other) : value = other := by
  cases h.same with
  | refl => rfl
  | map hrole => exact absurd rfl hrole

/-- In most roles the values are both maps, or one value that is no map. -/
theorem maps_or_eq (h : Like role value other) (hrole : role ≠ .bindings) :
    (∃ left right, value = .map left ∧ other = .map right ∧ Reordered role left right)
      ∨ value = other ∧ ∀ entries, value ≠ .map entries := by
  cases h.same with
  | refl =>
    cases value with
    | map entries => exact .inl ⟨entries, entries, rfl, rfl, .refl role h.wellKeyed⟩
    | null | bool value | number value | string value | list items => exact .inr ⟨rfl, by simp⟩
  | @map _ left middle right _ hentries horder =>
    obtain ⟨hdistinct, hkeyed⟩ := h.wellKeyed.of_map
    exact .inl ⟨left, right, rfl, rfl, hdistinct, middle, hentries.forall₂ hkeyed, horder⟩
  | list => exact absurd rfl hrole

/-- Bindings are also lists. -/
theorem bindings_cases (h : Like .bindings value other) :
    (∃ left right, value = .map left ∧ other = .map right ∧ Reordered .bindings left right)
      ∨ (∃ left right, value = .list left ∧ other = .list right
          ∧ List.Forall₂ (Like .item) left right)
      ∨ value = other := by
  cases h.same with
  | refl => exact .inr (.inr rfl)
  | @map _ left middle right _ hentries horder =>
    obtain ⟨hdistinct, hkeyed⟩ := h.wellKeyed.of_map
    exact .inl ⟨left, right, rfl, rfl, hdistinct, middle, hentries.forall₂ hkeyed, horder⟩
  | @list left right hitems =>
    exact .inr (.inl ⟨left, right, rfl, rfl, hitems.forall₂ h.wellKeyed.of_list⟩)

end Like

/-! ## Reordered maps -/

section Keyed

variable {role : Role} {left right : Document}

theorem keys_eq_of_keyed (h : List.Forall₂ (LikeEntry role) left right) :
    left.keys = right.keys := by
  induction h with
  | nil => rfl
  | cons hentry _ ih => exact congrArg₂ List.cons hentry.key_eq ih

theorem get_of_keyed (h : List.Forall₂ (LikeEntry role) left right) (key : String) :
    Option.Rel (Like (role.child key)) (left.get? key) (right.get? key) := by
  induction h with
  | nil => exact .none
  | @cons entry other _ _ hentry _ ih =>
    rw [Document.get?, Document.get?, SortedMap.lookup_cons_ite, SortedMap.lookup_cons_ite,
      ← hentry.key_eq]
    by_cases hkey : key = entry.1
    · rw [if_pos hkey, if_pos hkey, hkey]
      exact .some hentry.value
    · rw [if_neg hkey, if_neg hkey]
      exact ih

theorem keyed_erase (h : List.Forall₂ (LikeEntry role) left right) (key : String) :
    List.Forall₂ (LikeEntry role) (left.erase key) (right.erase key) := by
  induction h with
  | nil => exact .nil
  | @cons entry other _ _ hentry _ ih =>
    rw [Document.erase, Document.erase, List.filter_cons, List.filter_cons, ← hentry.key_eq]
    split
    · exact .cons hentry ih
    · exact ih

end Keyed

namespace Reordered

variable {role : Role} {left right : Document}

theorem keys_perm (h : Reordered role left right) : left.keys.Perm right.keys := by
  obtain ⟨middle, hkeyed, horder⟩ := h.entries
  rw [keys_eq_of_keyed hkeyed]
  exact horder.perm.map Prod.fst

theorem eq_nil_iff (h : Reordered role left right) : left = [] ↔ right = [] := by
  have hlength := h.keys_perm.length_eq
  rw [Document.keys, Document.keys, List.length_map, List.length_map] at hlength
  rw [← List.length_eq_zero_iff, ← List.length_eq_zero_iff, hlength]

theorem nil_or_cons (h : Reordered role left right) :
    (left = [] ∧ right = [])
      ∨ ∃ entry rest other others, left = entry :: rest ∧ right = other :: others := by
  cases left with
  | nil => exact .inl ⟨rfl, h.eq_nil_iff.mp rfl⟩
  | cons entry rest =>
    cases right with
    | nil => exact absurd (h.eq_nil_iff.mpr rfl) (List.cons_ne_nil entry rest)
    | cons other others => exact .inr ⟨entry, rest, other, others, rfl, rfl⟩

theorem singleton {entry other : String × Json} (h : Reordered role [entry] [other]) :
    LikeEntry role entry other := by
  obtain ⟨middle, hkeyed, horder⟩ := h.entries
  obtain ⟨found, rest, hentry, hrest, rfl⟩ := List.forall₂_cons_left_iff.mp hkeyed
  obtain rfl := List.forall₂_nil_left_iff.mp hrest
  obtain rfl := List.singleton_perm_singleton.mp horder.perm
  exact hentry

/-- Under a key there is the same in both maps. -/
theorem get (h : Reordered role left right) (key : String) :
    Option.Rel (Like (role.child key)) (left.get? key) (right.get? key) := by
  obtain ⟨middle, hkeyed, horder⟩ := h.entries
  have hdistinct : (Document.keys middle).Nodup := by
    rw [← keys_eq_of_keyed hkeyed]
    exact h.distinct
  have hget : Document.get? middle key = right.get? key :=
    SortedMap.lookup_eq_of_perm horder.perm hdistinct key
  exact hget ▸ get_of_keyed hkeyed key

/-- Under a key of most roles there are two maps that are the same, or one value that is no map, or
nothing. -/
theorem maps_or_eq (h : Reordered role left right) (key : String) (inner : Role)
    (hchild : role.child key = inner) (hinner : inner ≠ .bindings) :
    (∃ entries others, left.get? key = some (.map entries) ∧ right.get? key = some (.map others)
        ∧ Reordered inner entries others)
      ∨ left.get? key = right.get? key ∧ ∀ entries, left.get? key ≠ some (.map entries) := by
  subst hchild
  have hrel := h.get key
  generalize left.get? key = value, right.get? key = other at hrel
  cases hrel with
  | none => exact .inr ⟨rfl, by simp⟩
  | some hvalue =>
    rcases hvalue.maps_or_eq hinner with ⟨entries, others, rfl, rfl, hmaps⟩ | ⟨rfl, hmap⟩
    · exact .inl ⟨entries, others, rfl, rfl, hmaps⟩
    · exact .inr ⟨rfl, fun entries heq => hmap entries (Option.some.inj heq)⟩

theorem get?_eq_of_fixed (h : Reordered role left right) {key : String}
    (hchild : role.child key = .fixed) : left.get? key = right.get? key := by
  have hrel := h.get key
  rw [hchild] at hrel
  generalize left.get? key = value, right.get? key = other at hrel
  cases hrel with
  | none => rfl
  | some hvalue => rw [hvalue.eq_of_fixed]

/-- Maps of which everything below is fixed have the same entries. -/
theorem perm_of_fixed (h : Reordered role left right) (hchild : ∀ key, role.child key = .fixed) :
    left.Perm right := by
  obtain ⟨middle, hkeyed, horder⟩ := h.entries
  have heq : left = middle := by
    refine List.forall₂_eq_eq_eq ▸ hkeyed.imp fun entry other hentry => ?_
    have hvalue := hentry.value
    rw [hchild] at hvalue
    exact Prod.ext hentry.key_eq hvalue.eq_of_fixed
  exact heq ▸ horder.perm

/-- Where the order of the keys has no meaning, a map may be taken without one of them. -/
theorem erase (h : Reordered role left right) (horder : role.order = .any) (key : String) :
    Reordered role (left.erase key) (right.erase key) := by
  obtain ⟨middle, hkeyed, hallows⟩ := h.entries
  rw [horder] at hallows
  have hperm : middle.Perm right := hallows
  refine ⟨h.distinct.sublist (List.filter_sublist.map Prod.fst), Document.erase middle key,
    FlowCompiler.keyed_erase hkeyed key, ?_⟩
  rw [horder]
  exact hperm.filter _

/-- Where the order is as authored, the entries are the same one by one. -/
theorem keyed (h : Reordered role left right) (horder : role.order = .authored) :
    List.Forall₂ (LikeEntry role) left right := by
  obtain ⟨middle, hkeyed, hallows⟩ := h.entries
  rw [horder] at hallows
  exact (show middle = right from hallows) ▸ hkeyed

/-- Where one key may stand anywhere, the other entries are the same one by one. -/
theorem keyed_erase (h : Reordered role left right) {key : String}
    (horder : role.order = .anyOf key) :
    List.Forall₂ (LikeEntry role) (left.erase key) (right.erase key) := by
  obtain ⟨middle, hkeyed, hallows⟩ := h.entries
  rw [horder] at hallows
  exact hallows.2 ▸ FlowCompiler.keyed_erase hkeyed key

end Reordered

end FlowCompiler
