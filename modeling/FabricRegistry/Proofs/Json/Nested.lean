import FabricRegistry.Proofs.Json.Reading

/-!
Texts within containers. What the reader makes of a text in open containers is what it makes of the
text alone, with the containers beneath (`Reader.pass?_within`), until a comma or a bracket behind a
whole value takes it out of the text (`Reader.pass?_within_cases`). Where no word can stand, a text
begins with blanks and then a token (`Reader.first_of_pass?`).
-/

namespace FabricRegistry.Json

/-- Nothing but spaces, tabs and line ends. -/
def Blank (s : List (Option Char)) : Prop := ∀ g ∈ s, ∃ c, g = some c ∧ isSpace c = true

/-- The token can end an item, a member or a container. -/
def Token.ends : Token → Bool
  | .comma | .closeArray | .closeObject => true
  | _ => false

/-- the place with more containers open beneath -/
def Place.within (base : List Frame) : Place → Place
  | .value outer => .value (outer ++ base)
  | .firstItem outer => .firstItem (outer ++ base)
  | .firstKey outer => .firstKey (outer ++ base)
  | .key outer members => .key (outer ++ base) members
  | .colon outer members name => .colon (outer ++ base) members name
  | .after outer t => .after (outer ++ base) t

/-! ### Steps and ends -/

namespace Reader

variable {r r' : Reader} {place place' : Place} {s : List (Option Char)} {g : Option Char}
  {t : Tree} {base : List Frame} {c : Char} {token : Token}

theorem exists_of_pass?_cons (h : r.pass? (g :: s) = some r') :
    ∃ r₁, r.step g = some r₁ ∧ r₁.pass? s = some r' :=
  Option.bind_eq_some_iff.mp h

/-- The text may end here just if a value has been read. -/
theorem finish?_eq_some_iff : r.finish? = some t ↔ r.Behind (.after [] t) := by
  refine ⟨fun h => ?_, Behind.finish?_eq⟩
  have hplace {place : Place} (h : finish? ⟨.between, place⟩ = some t) : place = .after [] t := by
    cases place with
    | after outer t' =>
      cases outer with
      | nil => exact congrArg _ (Option.some.inj h)
      | cons f outer => cases h
    | _ => cases h
  obtain ⟨mode, place⟩ := r
  cases mode with
  | between =>
    obtain rfl := hplace h
    exact .between
  | word read =>
    obtain ⟨place', hword, h⟩ := Option.bind_eq_some_iff.mp h
    obtain rfl := hplace h
    exact .word hword
  | _ => cases h

theorem read?_eq_some_iff :
    Tree.read? s = some t ↔ ∃ r, start.pass? s = some r ∧ r.Behind (.after [] t) := by
  simp only [Tree.read?, Option.bind_eq_bind, Option.bind_eq_some_iff, finish?_eq_some_iff, pass?]

/-! ### Containers beneath -/

/-- the reader with more containers open beneath -/
def within (base : List Frame) (r : Reader) : Reader := ⟨r.mode, r.place.within base⟩

/-- A token does the same in more containers, unless it is to end a container and a whole value has
been read. -/
theorem next?_within (token : Token) (h : token.ends = true → ∀ t, place ≠ .after [] t) :
    (place.within base).next? token = (place.next? token).map (Place.within base) := by
  cases place with
  | after outer t =>
    cases outer with
    | nil =>
      cases token with
      | comma => exact absurd rfl (h rfl t)
      | closeArray => exact absurd rfl (h rfl t)
      | closeObject => exact absurd rfl (h rfl t)
      | _ =>
        cases base with
        | nil => rfl
        | cons f base => cases f <;> rfl
    | cons f outer => cases f <;> cases token <;> rfl
  | _ => cases token <;> rfl

theorem next?_within_of_not_ends (h : token.ends = false) :
    (place.within base).next? token = (place.next? token).map (Place.within base) :=
  next?_within token fun hends => absurd (h.symm.trans hends) Bool.false_ne_true

theorem endWord?_within (read : List Char) (place : Place) :
    endWord? read (place.within base) = (endWord? read place).map (Place.within base) := by
  unfold endWord?
  cases wordTree? read.reverse with
  | none => rfl
  | some t => exact next?_within_of_not_ends rfl

theorem stepBetween_within
    (h : ∀ token t, punctuation? c = some token → token.ends = true → place ≠ .after [] t) :
    stepBetween (place.within base) c = (stepBetween place c).map (within base) := by
  unfold stepBetween
  split
  · rfl
  · split
    · rfl
    · cases hc : punctuation? c with
      | none => rfl
      | some token =>
        simp only [next?_within token (fun hends t => h token t hc hends), Option.map_map]
        rfl

/-- A step does the same in more containers, unless it is to end a container behind a whole
value. -/
theorem step_within
    (h : ∀ c token t, g = some c → punctuation? c = some token → ¬ r.Behind (.after [] t)) :
    (r.within base).step g = (r.step g).map (within base) := by
  obtain ⟨mode, place⟩ := r
  cases mode with
  | between =>
    cases g with
    | none => rfl
    | some c =>
      refine stepBetween_within fun token t hc _ hplace => h c token t rfl hc ?_
      exact hplace ▸ .between
  | word read =>
    cases g with
    | none => rfl
    | some c =>
      simp only [within, step, endWord?_within]
      split
      · cases hword : endWord? read place with
        | none => rfl
        | some place' =>
          refine stepBetween_within fun token t hc _ hplace => h c token t rfl hc ?_
          exact hplace ▸ .word hword
      · rfl
  | string read =>
    cases g with
    | none => rfl
    | some c =>
      have hnext : (place.within base).next? (.string read.reverse) =
          (place.next? (.string read.reverse)).map (Place.within base) :=
        next?_within_of_not_ends rfl
      simp only [within, step, hnext]
      split
      · simp only [Option.map_map]
        rfl
      · split
        · rfl
        · split <;> rfl
  | escape read =>
    cases g with
    | none => rfl
    | some c =>
      simp only [within, step]
      split
      · rfl
      · cases escaped? c <;> rfl
  | hex read count value =>
    cases g with
    | none => rfl
    | some c =>
      simp only [within, step]
      cases hexValue? c with
      | none => rfl
      | some digit =>
        simp only [Option.bind_eq_bind, Option.bind_some]
        split <;> rfl

theorem Behind.within (h : r.Behind place) (base : List Frame) :
    (r.within base).Behind (place.within base) := by
  cases h with
  | between => exact .between
  | word hword => exact .word (by rw [endWord?_within, hword, Option.map_some])

/-- Behind a whole value no punctuation can come. -/
theorem Behind.step_eq_none (h : r.Behind (.after [] t)) (hc : punctuation? c = some token) :
    r.step (some c) = none :=
  h.step_punctuation token hc

/-- **What is made of a text does not depend on the containers beneath.** -/
theorem pass?_within (h : r.pass? s = some r') :
    (r.within base).pass? s = some (r'.within base) := by
  induction s generalizing r with
  | nil =>
    obtain rfl := Option.some.inj h
    rfl
  | cons g s ih =>
    obtain ⟨r₁, hstep, hrest⟩ := exists_of_pass?_cons h
    have hwithin : (r.within base).step g = some (r₁.within base) := by
      rw [step_within, hstep, Option.map_some]
      rintro c token t rfl hc hr
      rw [hr.step_eq_none hc] at hstep
      cases hstep
    rw [pass?_cons_of_eq hwithin, ih hrest]

/-- **In containers a text can go on behind a whole value**, with a comma or a bracket. -/
theorem pass?_within_cases (h : (r.within base).pass? s = some r') :
    (∃ r₁, r.pass? s = some r₁ ∧ r' = r₁.within base) ∨
    ∃ v c rest token r₁ t, s = v ++ some c :: rest ∧ punctuation? c = some token ∧
      r.pass? v = some r₁ ∧ r₁.Behind (.after [] t) ∧
      (r₁.within base).pass? (some c :: rest) = some r' := by
  induction s generalizing r with
  | nil => exact Or.inl ⟨r, rfl, (Option.some.inj h).symm⟩
  | cons g s ih =>
    by_cases hends : ∃ c token t, g = some c ∧ punctuation? c = some token ∧
        r.Behind (.after [] t)
    · obtain ⟨c, token, t, rfl, hc, hr⟩ := hends
      exact Or.inr ⟨[], c, s, token, r, t, rfl, hc, rfl, hr, h⟩
    · obtain ⟨r₁, hstep, hrest⟩ := exists_of_pass?_cons h
      rw [step_within fun c token t hg hc hr => hends ⟨c, token, t, hg, hc, hr⟩] at hstep
      obtain ⟨r₂, halone, rfl⟩ := Option.map_eq_some_iff.mp hstep
      rcases ih hrest with ⟨r₃, hpass, rfl⟩ | ⟨v, c, rest, token, r₃, t, rfl, hc, hpass, hr, hgo⟩
      · exact Or.inl ⟨r₃, (pass?_cons_of_eq halone s).trans hpass, rfl⟩
      · exact Or.inr ⟨g :: v, c, rest, token, r₃, t, rfl, hc,
          (pass?_cons_of_eq halone v).trans hpass, hr, hgo⟩

/-! ### Strings -/

/-- The reader is within a string. -/
inductive InString : Mode → Prop
  | string (read : List Piece) : InString (.string read)
  | escape (read : List Piece) : InString (.escape read)
  | hex (read : List Piece) (count value : ℕ) : InString (.hex read count value)

/-- Within a string the place does not matter before the closing quote. -/
theorem InString.step_cases {mode : Mode} (h : InString mode) (g : Option Char) :
    (∃ mode', InString mode' ∧ ∀ place, step ⟨mode, place⟩ g = some ⟨mode', place⟩) ∨
    (∃ read, mode = .string read ∧ g = some '"') ∨ ∀ place, step ⟨mode, place⟩ g = none := by
  cases h with
  | string read =>
    cases g with
    | none => exact Or.inl ⟨_, .string _, fun _ => rfl⟩
    | some c =>
      by_cases hquote : c = '"'
      · exact Or.inr (Or.inl ⟨read, rfl, congrArg some hquote⟩)
      · by_cases hbackslash : c = '\\'
        · exact Or.inl ⟨_, .escape read, fun _ => by simp [step, hbackslash]⟩
        · by_cases hcontrol : c.toNat < 0x20
          · exact Or.inr (Or.inr fun _ => by simp [step, hquote, hbackslash, hcontrol])
          · exact Or.inl ⟨_, .string (.char c :: read),
              fun _ => by simp [step, hquote, hbackslash, hcontrol]⟩
  | escape read =>
    cases g with
    | none => exact Or.inr (Or.inr fun _ => rfl)
    | some c =>
      by_cases hu : c = 'u'
      · exact Or.inl ⟨_, .hex read 0 0, fun _ => by simp [step, hu]⟩
      · cases he : escaped? c with
        | none => exact Or.inr (Or.inr fun _ => by simp [step, hu, he])
        | some e => exact Or.inl ⟨_, .string (.char e :: read), fun _ => by simp [step, hu, he]⟩
  | hex read count value =>
    cases g with
    | none => exact Or.inr (Or.inr fun _ => rfl)
    | some c =>
      cases hd : hexValue? c with
      | none => exact Or.inr (Or.inr fun _ => by simp [step, hd])
      | some digit =>
        by_cases hcount : count < 3
        · exact Or.inl ⟨_, .hex read (count + 1) (16 * value + digit),
            fun _ => by simp [step, hd, hcount]⟩
        · exact Or.inl ⟨_, .string (.unit (16 * value + digit) :: read),
            fun _ => by simp [step, hd, hcount]⟩

theorem InString.not_behind {mode : Mode} (h : InString mode) :
    ¬ (⟨mode, place⟩ : Reader).Behind place' := by
  cases h <;> exact nofun

/-- Within a string the reader stays there, or it comes upon the closing quote. -/
theorem InString.pass?_cases {mode : Mode} (h : InString mode)
    (hr : pass? ⟨mode, place⟩ s = some r) :
    (∃ mode', InString mode' ∧ r = ⟨mode', place⟩) ∨
    ∃ body read rest place', s = body ++ some '"' :: rest ∧
      (∀ place, pass? ⟨mode, place⟩ body = some ⟨.string read, place⟩) ∧
      place.next? (.string read.reverse) = some place' ∧
      pass? ⟨.between, place'⟩ rest = some r := by
  induction s generalizing mode with
  | nil => exact Or.inl ⟨mode, h, (Option.some.inj hr).symm⟩
  | cons g s ih =>
    obtain ⟨r₁, hstep, hrest⟩ := exists_of_pass?_cons hr
    rcases h.step_cases g with ⟨mode', hmode', hall⟩ | ⟨read, rfl, rfl⟩ | hnone
    · obtain rfl := Option.some.inj ((hall place).symm.trans hstep)
      rcases ih hmode' hrest with hin | ⟨body, read, rest, place', rfl, hbody, hnext, hgo⟩
      · exact Or.inl hin
      · exact Or.inr ⟨g :: body, read, rest, place', rfl,
          fun place => (pass?_cons_of_eq (hall place) body).trans (hbody place), hnext, hgo⟩
    · have hquote : (place.next? (.string read.reverse)).map (⟨.between, ·⟩) = some r₁ := hstep
      obtain ⟨place', hnext, rfl⟩ := Option.map_eq_some_iff.mp hquote
      exact Or.inr ⟨[], read, s, place', rfl, fun _ => rfl, hnext, hrest⟩
    · rw [hnone place] at hstep
      cases hstep

theorem pass?_blank (place : Place) (hs : Blank s) :
    pass? ⟨.between, place⟩ s = some ⟨.between, place⟩ := by
  induction s with
  | nil => rfl
  | cons g s ih =>
    obtain ⟨⟨c, rfl, hc⟩, hrest⟩ := List.forall_mem_cons.mp hs
    have hstep : step ⟨.between, place⟩ (some c) = some ⟨.between, place⟩ := by
      simp [step, stepBetween, hc]
    rw [pass?_cons_of_eq hstep, ih hrest]

/-- A word that cannot stand here is not ended. -/
theorem pass?_word_of_none {read : List Char} (hword : ∀ t, place.next? (.word t) = none)
    (hr : pass? ⟨.word read, place⟩ s = some r) : ¬ r.Behind place' := by
  have hend : ∀ read, endWord? read place = none := by
    intro read
    unfold endWord?
    cases wordTree? read.reverse with
    | none => rfl
    | some t => exact hword t
  induction s generalizing read with
  | nil =>
    obtain rfl := Option.some.inj hr
    rintro (_ | h)
    rw [hend] at h
    cases h
  | cons g s ih =>
    obtain ⟨r₁, hstep, hrest⟩ := exists_of_pass?_cons hr
    cases g with
    | none => cases hstep
    | some c =>
      simp only [step, hend] at hstep
      split at hstep
      · cases hstep
      · obtain rfl := Option.some.inj hstep
        exact ih hrest

/-! ### Tokens -/

/-- The characters of a string between its quotes, which are read as pieces at any place. -/
def Literal (body : List (Option Char)) (pieces : List Piece) : Prop :=
  ∀ place, pass? ⟨.string [], place⟩ body = some ⟨.string pieces.reverse, place⟩

/-- A quoted string is one token. -/
theorem Literal.pass?_eq {body : List (Option Char)} {pieces : List Piece}
    (h : Literal body pieces) (hnext : place.next? (.string pieces) = some place')
    (s : List (Option Char)) :
    pass? ⟨.between, place⟩ (some '"' :: (body ++ some '"' :: s)) =
      pass? ⟨.between, place'⟩ s := by
  have hopen : step ⟨.between, place⟩ (some '"') = some ⟨.string [], place⟩ := rfl
  have hclose : step ⟨.string pieces.reverse, place⟩ (some '"') = some ⟨.between, place'⟩ := by
    simp [step, hnext]
  rw [pass?_cons_of_eq hopen, pass?_append_of_eq (h place), pass?_cons_of_eq hclose]

/-- the first token of a text, at a place where no word can stand -/
inductive First (place : Place) (r : Reader) (s : List (Option Char)) : Prop
  /-- there is none -/
  | blank (hs : Blank s) (hr : r = ⟨.between, place⟩)
  /-- it is a bracket, a comma or a colon -/
  | punctuation {w c token place' rest} (hw : Blank w) (hs : s = w ++ some c :: rest)
    (hc : punctuation? c = some token) (hnext : place.next? token = some place')
    (hrest : pass? ⟨.between, place'⟩ rest = some r)
  /-- it is a string -/
  | string {w body pieces place' rest} (hw : Blank w)
    (hs : s = w ++ some '"' :: (body ++ some '"' :: rest)) (hbody : Literal body pieces)
    (hnext : place.next? (.string pieces) = some place')
    (hrest : pass? ⟨.between, place'⟩ rest = some r)

theorem first_of_pass? (hword : ∀ t, place.next? (.word t) = none)
    (h : pass? ⟨.between, place⟩ s = some r) (hr : r.Behind place') : First place r s := by
  induction s with
  | nil => exact .blank nofun (Option.some.inj h).symm
  | cons g s ih =>
    obtain ⟨r₁, hstep, hrest⟩ := exists_of_pass?_cons h
    cases g with
    | none => cases hstep
    | some c =>
      simp only [step, stepBetween] at hstep
      split at hstep
      · next hspace =>
        obtain rfl := Option.some.inj hstep
        have hcons {w : List (Option Char)} (hw : Blank w) : Blank (some c :: w) :=
          List.forall_mem_cons.mpr ⟨⟨c, rfl, hspace⟩, hw⟩
        cases ih hrest with
        | blank hs hr => exact .blank (hcons hs) hr
        | punctuation hw hs hc hnext hgo =>
          exact .punctuation (hcons hw) (congrArg (some c :: ·) hs) hc hnext hgo
        | string hw hs hbody hnext hgo =>
          exact .string (hcons hw) (congrArg (some c :: ·) hs) hbody hnext hgo
      · split at hstep
        · next hquote =>
          obtain rfl := Option.some.inj hstep
          subst hquote
          rcases (InString.string []).pass?_cases hrest with
            ⟨mode, hmode, rfl⟩ | ⟨body, read, rest, place', rfl, hbody, hnext, hgo⟩
          · exact absurd hr hmode.not_behind
          · have hliteral : Literal body read.reverse := fun place => by
              rw [hbody place, List.reverse_reverse]
            exact .string (w := []) nofun rfl hliteral hnext hgo
        · split at hstep
          · next token hc =>
            obtain ⟨place', hnext, rfl⟩ := Option.map_eq_some_iff.mp hstep
            exact .punctuation (w := []) nofun rfl hc hnext hrest
          · obtain rfl := Option.some.inj hstep
            exact absurd hr (pass?_word_of_none hword hrest)

theorem Behind.eq_of_between (h : (⟨.between, place⟩ : Reader).Behind place') : place = place' := by
  cases h
  rfl

/-- Within a container no whole value is the end. -/
theorem not_behind_within {f : Frame} : ¬ (r.within (f :: base)).Behind (.after [] t) := by
  have hwithin : ∀ place : Place, place.within (f :: base) ≠ .after [] t := by
    intro place h
    cases place with
    | after outer t' =>
      have houter : outer ++ f :: base = [] := (Place.after.inj h).1
      cases outer <;> cases houter
    | _ => cases h
  obtain ⟨mode, place⟩ := r
  intro h
  generalize hr : within (f :: base) ⟨mode, place⟩ = r' at h
  cases h with
  | between => exact hwithin place (congrArg Reader.place hr)
  | @word read place' _ hword =>
    obtain rfl : place.within (f :: base) = place' := congrArg Reader.place hr
    rw [endWord?_within] at hword
    obtain ⟨place'', -, hplace⟩ := Option.map_eq_some_iff.mp hword
    exact hwithin place'' hplace

end Reader

end FabricRegistry.Json
