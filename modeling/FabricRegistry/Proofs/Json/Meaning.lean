import FabricRegistry.Proofs.Json.Reading
import FabricRegistry.Proofs.Lookup
import Mathlib.Data.String.Basic

/-!
What the tree of a value means. A value in which members are in order is the meaning of its own tree
(`Plain.ofTreeWith?_tree`), and every value that is read from a tree, wrapped or not, is in order
(`ordered_of_ofTree?`).
-/

namespace FabricRegistry.Json

/-! ### Members in order -/

section Members

variable {α : Type} {members sorted : List (String × α)} {key : String} {v : α} {m : String × α}

/-- The names ascend, so that none occurs twice. -/
def Ascending (members : List (String × α)) : Prop := members.Pairwise fun m m' => m.1 < m'.1

theorem precedes_eq_true_iff {a b : String} : precedes a b = true ↔ a < b := decide_eq_true_iff

theorem insertMember_of_last (h : ∀ m ∈ sorted, m.1 < key) :
    insertMember key v sorted = sorted ++ [(key, v)] := by
  induction sorted with
  | nil => rfl
  | cons m sorted ih =>
    obtain ⟨hm, hrest⟩ := List.forall_mem_cons.mp h
    have hprecedes : ¬ precedes key m.1 = true := fun h => hm.asymm (precedes_eq_true_iff.mp h)
    rw [insertMember, if_neg hm.ne', if_neg hprecedes, ih hrest, List.cons_append]

theorem foldl_insertMember_of_ascending (h : Ascending (sorted ++ members)) :
    members.foldl (fun sorted m => insertMember m.1 m.2 sorted) sorted = sorted ++ members := by
  induction members generalizing sorted with
  | nil => simp
  | cons m members ih =>
    have hlast : ∀ m' ∈ sorted, m'.1 < m.1 := fun m' hm' =>
      (List.pairwise_append.mp h).2.2 m' hm' m List.mem_cons_self
    rw [List.append_cons] at h
    rw [List.foldl_cons, insertMember_of_last hlast, ih h]
    simp

/-- Members in order are sorted already. -/
theorem sortMembers_of_ascending (h : Ascending members) : sortMembers members = members := by
  have hsorted : Ascending ([] ++ members) := h
  exact foldl_insertMember_of_ascending hsorted

theorem eq_or_mem_of_mem_insertMember (h : m ∈ insertMember key v members) :
    m = (key, v) ∨ m ∈ members := by
  induction members with
  | nil => exact Or.inl (List.mem_singleton.mp h)
  | cons first members ih =>
    rw [insertMember] at h
    split at h
    · exact (List.mem_cons.mp h).imp_right (List.mem_cons_of_mem first)
    · split at h
      · exact List.mem_cons.mp h
      · rcases List.mem_cons.mp h with rfl | hrest
        · exact Or.inr List.mem_cons_self
        · exact (ih hrest).imp_right (List.mem_cons_of_mem first)

/-- A member that was put in is found under its name, and every other member as before. -/
theorem lookup_insertMember (key name : String) (v : α) (members : List (String × α)) :
    (insertMember key v members).lookup name =
      if name = key then some v else members.lookup name := by
  induction members with
  | nil => rw [insertMember, lookup_cons_eq]
  | cons first members ih =>
    obtain ⟨other, w⟩ := first
    rw [insertMember]
    split
    · next heq => grind [lookup_cons_eq]
    · next hne =>
      split
      · rw [lookup_cons_eq]
      · simp only [lookup_cons_eq, ih]
        grind

theorem mem_names_insertMember {name : String} :
    name ∈ (insertMember key v members).map Prod.fst ↔
      name = key ∨ name ∈ members.map Prod.fst := by
  induction members with
  | nil => simp [insertMember]
  | cons first members ih =>
    rw [insertMember]
    split
    · next heq => simp [heq]
    · split
      · simp
      · simp only [List.map_cons, List.mem_cons, ih]
        tauto

theorem Ascending.insertMember (h : Ascending members) :
    Ascending (insertMember key v members) := by
  induction members with
  | nil => exact List.pairwise_singleton _ _
  | cons first members ih =>
    obtain ⟨hfirst, hrest⟩ := List.pairwise_cons.mp h
    rw [Json.insertMember]
    split
    · next heq => exact List.pairwise_cons.mpr ⟨heq ▸ hfirst, hrest⟩
    · next hne =>
      split
      · next hlt =>
        have hkey : key < first.1 := precedes_eq_true_iff.mp hlt
        exact List.pairwise_cons.mpr
          ⟨List.forall_mem_cons.mpr ⟨hkey, fun m hm => hkey.trans (hfirst m hm)⟩, h⟩
      · next hge =>
        have hkey : first.1 < key :=
          lt_of_le_of_ne (not_lt.mp fun h => hge (precedes_eq_true_iff.mpr h)) (Ne.symm hne)
        refine List.pairwise_cons.mpr ⟨fun m hm => ?_, ih hrest⟩
        rcases eq_or_mem_of_mem_insertMember hm with rfl | hm
        · exact hkey
        · exact hfirst m hm

theorem ascending_sortMembers (members : List (String × α)) : Ascending (sortMembers members) := by
  unfold sortMembers
  refine List.foldlRecOn members _ List.Pairwise.nil fun sorted h m _ => h.insertMember

theorem mem_of_mem_sortMembers (h : m ∈ sortMembers members) : m ∈ members := by
  revert h
  unfold sortMembers
  refine List.foldlRecOn (motive := fun sorted => m ∈ sorted → m ∈ members) members _ nofun ?_
  intro sorted ih m' hm' h
  rcases eq_or_mem_of_mem_insertMember h with rfl | hsorted
  · exact hm'
  · exact ih hsorted

end Members

/-! ### Values in order -/

namespace Value

variable {depth : ℕ} {v : Value} {unwrap? : String → Option Value}

/-- The members of every object ascend. -/
inductive Ordered : Value → Prop
  | null : Ordered .null
  | bool {b : Bool} : Ordered (.bool b)
  | int {n : ℤ} : Ordered (.int n)
  | double {x : Double} : Ordered (.double x)
  | string {s : String} : Ordered (.string s)
  | array {items : List Value} (h : ∀ v ∈ items, Ordered v) : Ordered (.array items)
  | object {members : List (String × Value)} (hascending : Ascending members)
    (h : ∀ m ∈ members, Ordered m.2) : Ordered (.object members)

theorem itemsOfTrees?_itemTrees {items : List Value}
    (h : ∀ v ∈ items, ofTreeWith? unwrap? depth v.tree = some v) :
    itemsOfTrees? unwrap? depth (itemTrees items) = some items := by
  induction items with
  | nil => rw [itemTrees, itemsOfTrees?]
  | cons v items ih =>
    obtain ⟨hv, hrest⟩ := List.forall_mem_cons.mp h
    simp [itemTrees, itemsOfTrees?, hv, ih hrest]

theorem membersOfTrees?_memberTrees {members : List (String × Value)}
    (h : ∀ m ∈ members, ofTreeWith? unwrap? depth m.2.tree = some m.2) :
    membersOfTrees? unwrap? depth (memberTrees members) = some members := by
  induction members with
  | nil => rw [memberTrees, membersOfTrees?]
  | cons m members ih =>
    obtain ⟨hm, hrest⟩ := List.forall_mem_cons.mp h
    simp [memberTrees, membersOfTrees?, hm, ih hrest]

theorem isWrapping_memberTrees {members : List (String × Value)}
    (h : ∀ m ∈ members.head?, m.1 ≠ wrappingName) : isWrapping (memberTrees members) = false := by
  cases members with
  | nil => rfl
  | cons m members => simp [memberTrees, isWrapping, h m rfl]

/-- **A plain value in order is what its tree means.** -/
theorem Plain.ofTreeWith?_tree (h : v.Plain depth) (hordered : v.Ordered) :
    ofTreeWith? unwrap? depth v.tree = some v := by
  induction h with
  | null => rw [tree, ofTreeWith?]
  | bool => rw [tree, ofTreeWith?]
  | int hn => simp [tree, ofTreeWith?, Numeral.integer?_ofInt hn]
  | string => simp [tree, ofTreeWith?]
  | array _ ih =>
    cases hordered with
    | array hitems =>
      have hread := itemsOfTrees?_itemTrees fun v hv => ih v hv (hitems v hv)
      simp [tree, ofTreeWith?, hread]
  | object hname _ ih =>
    cases hordered with
    | object hascending hmembers =>
      have hread := membersOfTrees?_memberTrees fun m hm => ih m hm (hmembers m hm)
      simp [tree, ofTreeWith?, isWrapping_memberTrees hname, hread, ofMembers,
        sortMembers_of_ascending hascending]

/-! ### Reading puts in order -/

-- Structural on the tree. A wrapping leaves it for another text, of which `hunwrap` speaks.
mutual
theorem ordered_of_ofTreeWith? (hunwrap : ∀ {text v}, unwrap? text = some v → v.Ordered) :
    ∀ {t : Tree} {depth : ℕ} {v : Value}, ofTreeWith? unwrap? depth t = some v → v.Ordered
  | .null, depth, v, h => by
    rw [ofTreeWith?] at h
    cases h
    exact .null
  | .bool b, depth, v, h => by
    rw [ofTreeWith?] at h
    cases h
    exact .bool
  | .number n, depth, v, h => by
    rw [ofTreeWith?] at h
    split at h
    · cases h
      exact .int
    · obtain ⟨x, -, rfl⟩ := Option.map_eq_some_iff.mp h
      exact .double
  | .string pieces, depth, v, h => by
    rw [ofTreeWith?] at h
    obtain ⟨s, -, rfl⟩ := Option.map_eq_some_iff.mp h
    exact .string
  | .array items, 0, v, h => by
    rw [ofTreeWith?] at h
    cases h
  | .array items, depth + 1, v, h => by
    rw [ofTreeWith?] at h
    obtain ⟨vs, hvs, rfl⟩ := Option.map_eq_some_iff.mp h
    exact .array (ordered_of_itemsOfTrees? hunwrap hvs)
  | .object members, 0, v, h => by
    rw [ofTreeWith?] at h
    cases h
  | .object members, depth + 1, v, h => by
    rw [ofTreeWith?] at h
    split at h
    · obtain ⟨text, -, htext⟩ := Option.bind_eq_some_iff.mp h
      exact hunwrap htext
    · obtain ⟨read, hread, rfl⟩ := Option.map_eq_some_iff.mp h
      exact .object (ascending_sortMembers read) fun m hm =>
        ordered_of_membersOfTrees? hunwrap hread m (mem_of_mem_sortMembers hm)

theorem ordered_of_itemsOfTrees? (hunwrap : ∀ {text v}, unwrap? text = some v → v.Ordered) :
    ∀ {ts : List Tree} {depth : ℕ} {vs : List Value},
      itemsOfTrees? unwrap? depth ts = some vs → ∀ v ∈ vs, v.Ordered
  | [], depth, vs, h => by
    rw [itemsOfTrees?] at h
    cases h
    simp
  | t :: ts, depth, vs, h => by
    rw [itemsOfTrees?] at h
    obtain ⟨v, hv, h⟩ := Option.bind_eq_some_iff.mp h
    obtain ⟨rest, hrest, h⟩ := Option.bind_eq_some_iff.mp h
    cases h
    exact List.forall_mem_cons.mpr
      ⟨ordered_of_ofTreeWith? hunwrap hv, ordered_of_itemsOfTrees? hunwrap hrest⟩

theorem ordered_of_membersOfTrees? (hunwrap : ∀ {text v}, unwrap? text = some v → v.Ordered) :
    ∀ {ts : List (List Piece × Tree)} {depth : ℕ} {members : List (String × Value)},
      membersOfTrees? unwrap? depth ts = some members → ∀ m ∈ members, m.2.Ordered
  | [], depth, members, h => by
    rw [membersOfTrees?] at h
    cases h
    simp
  | (key, t) :: ts, depth, members, h => by
    rw [membersOfTrees?] at h
    obtain ⟨name, -, h⟩ := Option.bind_eq_some_iff.mp h
    obtain ⟨v, hv, h⟩ := Option.bind_eq_some_iff.mp h
    obtain ⟨rest, hrest, h⟩ := Option.bind_eq_some_iff.mp h
    cases h
    exact List.forall_mem_cons.mpr
      ⟨ordered_of_ofTreeWith? hunwrap hv, ordered_of_membersOfTrees? hunwrap hrest⟩
end

theorem ordered_of_ofTextWithin? {fuel : ℕ} {text : String}
    (h : ofTextWithin? fuel text = some v) : v.Ordered := by
  induction fuel generalizing text v with
  | zero => cases h
  | succ fuel ih =>
    obtain ⟨t, -, ht⟩ := Option.bind_eq_some_iff.mp h
    exact ordered_of_ofTreeWith? ih ht

/-- **What is read is in order.** -/
theorem ordered_of_ofTree? {t : Tree} (h : ofTree? depth t = some v) : v.Ordered :=
  ordered_of_ofTreeWith? ordered_of_ofTextWithin? h

end Value

end FabricRegistry.Json
