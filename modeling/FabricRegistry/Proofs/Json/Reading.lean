import FabricRegistry.Proofs.Json.Literals

/-!
Reading the compact text of a value. From every place where a value may start, the reader is led by
the text to the place behind the tree of the value (`Plain.reads`), one constructor after the other.
It notices the end of a word only at the next character, so what a text leads to is a reader that
will have reached its place whatever comes next.
-/

namespace FabricRegistry.Json

/-! ### Runs of the reader -/

namespace Reader

variable {r r' : Reader} {place place' : Place}

/-- the reader behind the characters, some of which may be damaged -/
def pass? (r : Reader) (s : List (Option Char)) : Option Reader := s.foldlM step r

theorem pass?_cons (r : Reader) (g : Option Char) (s : List (Option Char)) :
    r.pass? (g :: s) = r.step g >>= (pass? · s) := rfl

theorem pass?_append (r : Reader) (s s' : List (Option Char)) :
    r.pass? (s ++ s') = r.pass? s >>= (pass? · s') := by
  simp only [pass?, List.foldlM_append]

theorem pass?_append_of_eq {s : List (Option Char)} (h : r.pass? s = some r')
    (s' : List (Option Char)) : r.pass? (s ++ s') = r'.pass? s' := by
  rw [pass?_append, h]
  rfl

theorem pass?_cons_of_eq {g : Option Char} (h : r.step g = some r') (s : List (Option Char)) :
    r.pass? (g :: s) = r'.pass? s := by
  rw [pass?_cons, h]
  rfl

/-- the reader behind the characters -/
def run? (r : Reader) (s : List Char) : Option Reader := (s.map some).foldlM step r

theorem run?_cons (r : Reader) (c : Char) (s : List Char) :
    r.run? (c :: s) = r.step (some c) >>= (run? · s) := rfl

theorem run?_append (r : Reader) (s s' : List Char) :
    r.run? (s ++ s') = r.run? s >>= (run? · s') := by
  simp only [run?, List.map_append, List.foldlM_append]

theorem run?_append_of_eq {s : List Char} (h : r.run? s = some r') (s' : List Char) :
    r.run? (s ++ s') = r'.run? s' := by
  rw [run?_append, h]
  rfl

theorem run?_cons_of_eq {c : Char} (h : r.step (some c) = some r') (s : List Char) :
    r.run? (c :: s) = r'.run? s :=
  pass?_cons_of_eq h (s.map some)

/-- The reader reaches the place, at the latest when it notices that a word has ended. -/
inductive Behind : Reader → Place → Prop
  | between {place : Place} : Behind ⟨.between, place⟩ place
  | word {read : List Char} {place place' : Place} (h : endWord? read place = some place') :
    Behind ⟨.word read, place⟩ place'

theorem not_isSpace_of_punctuation {c : Char} {token : Token} (h : punctuation? c = some token) :
    isSpace c = false ∧ c ≠ '"' := by
  unfold punctuation? at h
  split at h
  iterate 6 exact ⟨by decide, by decide⟩
  cases h

/-- A bracket, a comma or a colon ends what is read before it. -/
theorem Behind.step_punctuation (h : r.Behind place) {c : Char} (token : Token)
    (hc : punctuation? c = some token) :
    r.step (some c) = (place.next? token).map (⟨.between, ·⟩) := by
  obtain ⟨hspace, hquote⟩ := not_isSpace_of_punctuation hc
  have hbetween : ∀ place, stepBetween place c = (place.next? token).map (⟨.between, ·⟩) := by
    intro place
    simp [stepBetween, hspace, hquote, hc]
  cases h with
  | between => exact hbetween place
  | word hword => simp [step, hc, hword, hbetween]

theorem Behind.pass?_punctuation (h : r.Behind place) {c : Char} (token : Token)
    (hc : punctuation? c = some token) (hnext : place.next? token = some place')
    (s : List (Option Char)) : r.pass? (some c :: s) = pass? ⟨.between, place'⟩ s := by
  refine pass?_cons_of_eq ?_ s
  rw [h.step_punctuation token hc, hnext, Option.map_some]

theorem Behind.run?_punctuation (h : r.Behind place) {c : Char} (token : Token)
    (hc : punctuation? c = some token) (hnext : place.next? token = some place') (s : List Char) :
    r.run? (c :: s) = run? ⟨.between, place'⟩ s :=
  h.pass?_punctuation token hc hnext (s.map some)

theorem Behind.finish?_eq {t : Tree} (h : r.Behind (.after [] t)) : r.finish? = some t := by
  cases h with
  | between => rfl
  | word hword => simp [finish?, hword]

/-! ### Strings and words -/

theorem hexValue?_hexDigit {n : ℕ} (h : n < 16) : hexValue? (hexDigit n) = some n := by
  have hall : ∀ m < 16, hexValue? (hexDigit m) = some m := by decide
  exact hall n h

/-- A character of a string is read from what it is written as. -/
theorem run?_escape (read : List Piece) (place : Place) (c : Char) :
    run? ⟨.string read, place⟩ (escape c) = some ⟨.string (Piece.ofChar c :: read), place⟩ := by
  unfold escape
  split
  -- seven characters have a letter of their own behind the backslash
  iterate 7 rfl
  · next hquote hbackslash hb hf hn hr ht =>
    by_cases hcontrol : c.toNat < 0x20
    · have hletter : c ∉ letteredControls := by
        simp only [letteredControls, List.mem_cons, not_or]
        exact ⟨hb, hf, hn, hr, ht, nofun⟩
      have hhigh := hexValue?_hexDigit (n := c.toNat / 16) (by omega)
      have hlow := hexValue?_hexDigit (n := c.toNat % 16) (by omega)
      have hvalue : 16 * (c.toNat / 16) + c.toNat % 16 = c.toNat := Nat.div_add_mod _ _
      have hzero : hexValue? '0' = some 0 := by decide
      simp [hcontrol, run?, step, hhigh, hlow, hzero, hvalue, Piece.ofChar, hletter]
    · have hpiece : Piece.ofChar c = .char c := by simp [Piece.ofChar, hcontrol]
      simp [run?, step, if_neg hquote, if_neg hbackslash, hcontrol, hpiece]

theorem run?_escapes (read : List Piece) (place : Place) (s : List Char) :
    run? ⟨.string read, place⟩ (s.flatMap escape) =
      some ⟨.string ((s.map Piece.ofChar).reverse ++ read), place⟩ := by
  induction s generalizing read with
  | nil => rfl
  | cons c s ih =>
    rw [List.flatMap_cons, run?_append_of_eq (run?_escape read place c), ih]
    simp

/-- A written string is one token. -/
theorem run?_stringChars (place : Place) (s : String) :
    run? ⟨.between, place⟩ (stringChars s) =
      (place.next? (.string (Piece.ofText s))).map (⟨.between, ·⟩) := by
  have hstart : step ⟨.between, place⟩ (some '"') = some ⟨.string [], place⟩ := rfl
  rw [stringChars, List.cons_append, run?_cons_of_eq hstart,
    run?_append_of_eq (run?_escapes [] place s.toList), run?_cons]
  simp [step, Piece.ofText, run?]

/-- The name of a member and its colon lead before the value of the member. -/
theorem run?_name (key : String) {outer : List Frame} {members : List (List Piece × Tree)}
    (hnext : place.next? (.string (Piece.ofText key)) =
      some (.colon outer members (Piece.ofText key))) (s : List Char) :
    run? ⟨.between, place⟩ (stringChars key ++ ':' :: s) =
      run? ⟨.between, .value (.object members (Piece.ofText key) :: outer)⟩ s := by
  rw [run?_append, run?_stringChars, hnext, Option.map_some, Option.bind_eq_bind, Option.bind_some]
  exact Behind.between.run?_punctuation .colon rfl rfl s

theorem run?_word (read : List Char) (place : Place) {w : List Char}
    (hw : ∀ c ∈ w, isWordChar c = true) :
    run? ⟨.word read, place⟩ w = some ⟨.word (w.reverse ++ read), place⟩ := by
  induction w generalizing read with
  | nil => rfl
  | cons c w ih =>
    obtain ⟨hc, hrest⟩ := List.forall_mem_cons.mp hw
    have hstep : step ⟨.word read, place⟩ (some c) = some ⟨.word (c :: read), place⟩ := by
      rw [isWordChar, Bool.not_eq_true'] at hc
      simp only [step, hc]
      rfl
    rw [run?_cons_of_eq hstep]
    simpa using ih (c :: read) hrest

end Reader

/-! ### Values -/

namespace Value

mutual
/-- the tree of the compact text -/
def tree : Value → Tree
  | .null => .null
  | .bool b => .bool b
  | .int n => .number (.ofInt n)
  | .double x => (wordTree? x.chars).getD .null
  | .string s => .string (Piece.ofText s)
  | .array items => .array (itemTrees items)
  | .object members => .object (memberTrees members)

/-- the trees of the items of an array -/
def itemTrees : List Value → List Tree
  | [] => []
  | v :: rest => tree v :: itemTrees rest

/-- the trees of the members of an object -/
def memberTrees : List (String × Value) → List (List Piece × Tree)
  | [] => []
  | (key, v) :: rest => (Piece.ofText key, tree v) :: memberTrees rest
end

/-- Within `depth` levels of containers, every number is an integer that 64 bits hold, and no object
is one that stands for another value. -/
inductive Plain : ℕ → Value → Prop
  | null {depth : ℕ} : Plain depth .null
  | bool {depth : ℕ} {b : Bool} : Plain depth (.bool b)
  | int {depth : ℕ} {n : ℤ} (h : InRange n) : Plain depth (.int n)
  | string {depth : ℕ} {s : String} : Plain depth (.string s)
  | array {depth : ℕ} {items : List Value} (h : ∀ v ∈ items, Plain depth v) :
    Plain (depth + 1) (.array items)
  | object {depth : ℕ} {members : List (String × Value)}
    (hname : ∀ m ∈ members.head?, m.1 ≠ wrappingName) (h : ∀ m ∈ members, Plain depth m.2) :
    Plain (depth + 1) (.object members)

end Value

/-- The place is before a value in the open containers. -/
inductive Place.Starts : Place → List Frame → Prop
  | value (outer : List Frame) : Starts (.value outer) outer
  | firstItem (outer : List Frame) : Starts (.firstItem outer) (.array [] :: outer)

/-- The characters lead behind the tree, wherever a value may start. -/
def Reads (s : List Char) (t : Tree) : Prop :=
  ∀ ⦃place : Place⦄ ⦃outer : List Frame⦄, place.Starts outer →
    ∃ r, Reader.run? ⟨.between, place⟩ s = some r ∧ r.Behind (.after outer t)

section Reads

open Reader

variable {outer : List Frame} {r : Reader} {t : Tree}

theorem reads_word {w : List Char} (hne : w ≠ []) (hw : w.all isWordChar = true)
    (ht : wordTree? w = some t) : Reads w t := by
  intro place outer hplace
  cases w with
  | nil => exact absurd rfl hne
  | cons c w =>
    obtain ⟨hc, hrest⟩ := List.forall_mem_cons.mp (List.all_eq_true.mp hw)
    have hstep : step ⟨.between, place⟩ (some c) = some ⟨.word [c], place⟩ := by
      simp only [isWordChar, Bool.not_eq_true', Bool.or_eq_false_iff, decide_eq_false_iff_not,
        Option.isSome_eq_false_iff, Option.isNone_iff_eq_none] at hc
      simp [step, stepBetween, hc.1.1, hc.1.2, hc.2]
    -- the word is still open here, and is ended by whatever comes next
    refine ⟨⟨.word (w.reverse ++ [c]), place⟩, ?_, .word ?_⟩
    · rw [run?_cons_of_eq hstep]
      exact run?_word [c] place hrest
    · cases hplace <;> simp [endWord?, ht, Place.next?, Place.startValue?]

theorem reads_int (n : ℤ) : Reads (intChars n) (.number (.ofInt n)) :=
  reads_word (intChars_ne_nil n) (all_isWordChar_intChars n) (wordTree?_intChars n)

theorem reads_string (s : String) : Reads (stringChars s) (.string (Piece.ofText s)) := by
  intro place outer hplace
  refine ⟨⟨.between, .after outer (.string (Piece.ofText s))⟩, ?_, .between⟩
  rw [run?_stringChars]
  cases hplace <;> rfl

/-- The items behind the first one and the closing bracket end the array. -/
theorem run?_itemsChars {items : List Value} (h : ∀ v ∈ items, Reads v.chars v.tree)
    {before : List Tree} (hr : r.Behind (.after (.array before :: outer) t)) :
    r.run? (Value.itemsChars items) =
      some ⟨.between, .after outer (.array ((t :: before).reverse ++ Value.itemTrees items))⟩ := by
  induction items generalizing r t before with
  | nil =>
    rw [Value.itemsChars, hr.run?_punctuation .closeArray rfl rfl]
    simp [run?, Value.itemTrees]
  | cons v items ih =>
    obtain ⟨hv, hrest⟩ := List.forall_mem_cons.mp h
    obtain ⟨r', hrun, hr'⟩ := hv (.value (.array (t :: before) :: outer))
    rw [Value.itemsChars, hr.run?_punctuation .comma rfl rfl, run?_append_of_eq hrun, ih hrest hr']
    simp [Value.itemTrees]

/-- The members behind the first one and the closing brace end the object. -/
theorem run?_membersChars {members : List (String × Value)}
    (h : ∀ m ∈ members, Reads m.2.chars m.2.tree) {before : List (List Piece × Tree)}
    {name : List Piece} (hr : r.Behind (.after (.object before name :: outer) t)) :
    r.run? (Value.membersChars members) = some ⟨.between,
      .after outer (.object (((name, t) :: before).reverse ++ Value.memberTrees members))⟩ := by
  induction members generalizing r t before name with
  | nil =>
    rw [Value.membersChars, hr.run?_punctuation .closeObject rfl rfl]
    simp [run?, Value.memberTrees]
  | cons m members ih =>
    obtain ⟨key, v⟩ := m
    obtain ⟨hv, hrest⟩ := List.forall_mem_cons.mp h
    obtain ⟨r', hrun, hr'⟩ :=
      hv (.value (.object ((name, t) :: before) (Piece.ofText key) :: outer))
    rw [Value.membersChars, hr.run?_punctuation .comma rfl rfl, run?_name key rfl,
      run?_append_of_eq hrun, ih hrest hr']
    simp [Value.memberTrees]

theorem Place.Starts.step_openArray {place : Place} (h : place.Starts outer) :
    step ⟨.between, place⟩ (some '[') = some ⟨.between, .firstItem outer⟩ := by
  cases h <;> rfl

theorem Place.Starts.step_openObject {place : Place} (h : place.Starts outer) :
    step ⟨.between, place⟩ (some '\x7b') = some ⟨.between, .firstKey outer⟩ := by
  cases h <;> rfl

/-- A bracket or a brace, and what leads from behind it to the end of the container. -/
theorem reads_container {c : Char} {inside : List Frame → Place} {s : List Char}
    (hopen : ∀ {place outer}, Place.Starts place outer →
      step ⟨.between, place⟩ (some c) = some ⟨.between, inside outer⟩)
    (h : ∀ outer, run? ⟨.between, inside outer⟩ s = some ⟨.between, .after outer t⟩) :
    Reads (c :: s) t := by
  intro place outer hplace
  refine ⟨_, ?_, .between⟩
  rw [run?_cons_of_eq (hopen hplace), h outer]

theorem reads_array {items : List Value} (h : ∀ v ∈ items, Reads v.chars v.tree) :
    Reads (Value.array items).chars (Value.array items).tree := by
  cases items with
  | nil => exact reads_container Place.Starts.step_openArray fun _ => rfl
  | cons v items =>
    obtain ⟨hv, hrest⟩ := List.forall_mem_cons.mp h
    rw [Value.chars]
    refine reads_container Place.Starts.step_openArray fun outer => ?_
    obtain ⟨r, hrun, hr⟩ := hv (.firstItem outer)
    rw [run?_append_of_eq hrun, run?_itemsChars hrest hr]
    rfl

theorem reads_object {members : List (String × Value)}
    (h : ∀ m ∈ members, Reads m.2.chars m.2.tree) :
    Reads (Value.object members).chars (Value.object members).tree := by
  cases members with
  | nil => exact reads_container Place.Starts.step_openObject fun _ => rfl
  | cons m members =>
    obtain ⟨key, v⟩ := m
    obtain ⟨hv, hrest⟩ := List.forall_mem_cons.mp h
    rw [Value.chars]
    refine reads_container Place.Starts.step_openObject fun outer => ?_
    obtain ⟨r, hrun, hr⟩ := hv (.value (.object [] (Piece.ofText key) :: outer))
    rw [run?_name key rfl, run?_append_of_eq hrun, run?_membersChars hrest hr]
    rfl

end Reads

/-- The compact text of a value leads behind its tree. -/
theorem Value.Plain.reads {depth : ℕ} {v : Value} (h : v.Plain depth) : Reads v.chars v.tree := by
  induction h with
  | null => exact reads_word (by decide) (by decide) rfl
  | @bool _ b =>
    cases b with
    | true => exact reads_word (by decide) (by decide) rfl
    | false => exact reads_word (by decide) (by decide) rfl
  | int _ => exact reads_int _
  | string => exact reads_string _
  | array _ ih => exact reads_array ih
  | object _ _ ih => exact reads_object ih

/-- **A text that leads behind a tree is read as the tree.** -/
theorem Reads.read?_eq {s : List Char} {t : Tree} (h : Reads s t) :
    Tree.read? (s.map some) = some t := by
  obtain ⟨r, hrun, hr⟩ := h (.value [])
  exact Option.bind_eq_some_iff.mpr ⟨r, hrun, hr.finish?_eq⟩

end FabricRegistry.Json
