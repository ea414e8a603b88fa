import FabricRegistry.Proofs.Text.Decimal
import FabricRegistry.Settings
import Mathlib.Data.List.Forall2

/-!
What a variable tells. A variable that holds nothing but blanks is not set (`SetTo`, `Unset`). Where
it is set, its text is taken as it is or read, as a number, as a duration or as addresses between
commas; where it is not, a default is taken (`Takes`). A text that cannot be read is complained
about.
-/

namespace FabricRegistry.Settings

/-- A variable is set to a text, which is more than blanks. -/
def SetTo (lookup : Lookup) (key raw : String) : Prop :=
  lookup key = some raw ∧ ∃ c ∈ raw.toList, Text.isBlank c = false

def Unset (lookup : Lookup) (key : String) : Prop := ∀ raw, ¬ SetTo lookup key raw

/-- A value is what the text of a variable tells, or a default where the variable is not set. -/
inductive Takes {α : Type} (lookup : Lookup) (key : String) (Tells : String → α → Prop)
    (default : α) : α → Prop where
  | told {raw : String} {v : α} (h : SetTo lookup key raw) (hraw : Tells raw v) :
      Takes lookup key Tells default v
  | default (h : Unset lookup key) : Takes lookup key Tells default default

/-- The text is a number below 2^32 between blanks. -/
def TellsCount (raw : String) (n : ℕ) : Prop :=
  ∃ t, Text.Stripped raw.toList t ∧ Text.Denotes t n ∧ n < 2 ^ 32

/-- The text is cut at every comma, and the blanks at the ends of each piece are taken away. -/
def TellsServers (raw : String) (servers : List String) : Prop :=
  List.Forall₂ (fun piece server => Text.Stripped piece server.toList) (raw.toList.splitOn ',')
    servers

variable {α : Type} {lookup lookup' : Lookup} {key raw : String} {v default : α}
  {e : InfrastructureError}

/-! ### Variables that are set -/

theorem get_eq_some_iff : get lookup key = some raw ↔ SetTo lookup key raw := by
  simp [get, SetTo, Option.filter_eq_some_iff, Text.allBlank]

theorem get_eq_none_iff : get lookup key = none ↔ Unset lookup key := by
  simp only [Option.eq_none_iff_forall_ne_some, ne_eq, get_eq_some_iff, Unset]

theorem get_congr (h : ∀ raw, SetTo lookup' key raw ↔ SetTo lookup key raw) :
    get lookup' key = get lookup key := by
  refine Option.ext fun raw => ?_
  rw [get_eq_some_iff, get_eq_some_iff]
  exact h raw

/-- There is a value to take unless the variable is set to a text that tells none. -/
theorem exists_takes_iff {Tells : String → α → Prop} :
    (∃ v, Takes lookup key Tells default v) ↔ ∀ raw, SetTo lookup key raw → ∃ v, Tells raw v := by
  constructor
  · rintro ⟨v, htakes⟩ raw h
    cases htakes with
    | told h' hraw =>
      obtain rfl := Option.some.inj (h'.1.symm.trans h.1)
      exact ⟨v, hraw⟩
    | default hunset => exact absurd h (hunset raw)
  · intro hall
    by_cases h : ∃ raw, SetTo lookup key raw
    · obtain ⟨raw, h⟩ := h
      obtain ⟨v, hraw⟩ := hall raw h
      exact ⟨v, .told h hraw⟩
    · exact ⟨default, .default (not_exists.mp h)⟩

/-! ### What texts tell -/

theorem readCount?_eq_some_iff {n : ℕ} : readCount? raw = some n ↔ TellsCount raw n := by
  simp only [readCount?, Text.readBelow?_eq_some_iff, TellsCount, Text.stripped_iff,
    exists_eq_left]
  rfl

theorem splitServers_eq_iff {servers : List String} :
    splitServers raw = servers ↔ TellsServers raw servers := by
  have hpiece : (fun piece (server : String) => Text.Stripped piece server.toList) =
      fun piece server => String.ofList (Text.trim piece) = server := by
    funext piece server
    rw [Text.stripped_iff, ← String.toList_inj, String.toList_ofList]
    exact propext eq_comm
  rw [TellsServers, hpiece, splitServers, Text.split_eq_splitOn, ← List.forall₂_map_left_iff,
    List.forall₂_eq_eq_eq]

/-! ### Texts that are taken as they are, or cut -/

theorem getD_map_get_eq_iff {f : String → α} {Tells : String → α → Prop}
    (hf : ∀ raw v, f raw = v ↔ Tells raw v) :
    ((get lookup key).map f).getD default = v ↔ Takes lookup key Tells default v := by
  constructor
  · rintro rfl
    cases hget : get lookup key with
    | none => exact .default (get_eq_none_iff.mp hget)
    | some raw => exact .told (get_eq_some_iff.mp hget) ((hf raw _).mp rfl)
  · intro h
    cases h with
    | told h hraw =>
      rw [get_eq_some_iff.mpr h, Option.map_some, Option.getD_some, (hf _ _).mpr hraw]
    | default h => rw [get_eq_none_iff.mpr h, Option.map_none, Option.getD_none]

theorem textOr_eq_iff {text default : String} :
    textOr lookup key default = text ↔ Takes lookup key Eq default text := by
  rw [textOr, ← Option.map_id_apply (x := get lookup key)]
  exact getD_map_get_eq_iff fun _ _ => Iff.rfl

/-! ### Texts that are read or complained about -/

/-- What is read of a variable, or its default where it is not set; a text of which nothing is read
is complained about. -/
def readOr (read : String → Option α) (complaint : String → String) (lookup : Lookup)
    (key : String) (default : α) : Except InfrastructureError α :=
  match get lookup key with
  | none => .ok default
  | some raw =>
    match read raw with
    | some v => .ok v
    | none => bad (complaint raw)

theorem countOr_eq (n : ℕ) : countOr lookup key n =
    readOr readCount? (fun raw => key ++ " must be a number, got " ++ Text.quoted raw) lookup key
      n := by
  unfold countOr readOr
  cases get lookup key with
  | none => rfl
  | some raw => cases hread : readCount? raw <;> simp only [hread]

theorem durationOr_eq (d : Duration) : durationOr lookup key d =
    readOr Duration.parse? (fun raw =>
      key ++ " must be a duration like 30s, 15m or 1h, got " ++ Text.quoted raw) lookup key d := by
  unfold durationOr readOr
  cases get lookup key with
  | none => rfl
  | some raw => cases hread : Duration.parse? raw <;> simp only [hread]

section Reading

variable {read : String → Option α} {Tells : String → α → Prop} {complaint : String → String}
  (hread : ∀ raw v, read raw = some v ↔ Tells raw v)
include hread

theorem readOr_eq_ok_iff :
    readOr read complaint lookup key default = .ok v ↔ Takes lookup key Tells default v := by
  unfold readOr
  constructor
  · intro h
    split at h
    · next hget =>
      cases h
      exact .default (get_eq_none_iff.mp hget)
    · next raw hget =>
      split at h
      · next hraw =>
        cases h
        exact .told (get_eq_some_iff.mp hget) ((hread raw v).mp hraw)
      · cases h
  · intro h
    cases h with
    | told h hraw => simp only [get_eq_some_iff.mpr h, (hread _ _).mpr hraw]
    | default h => simp only [get_eq_none_iff.mpr h]

theorem readOr_eq_error_iff : readOr read complaint lookup key default = .error e ↔
    ∃ raw, SetTo lookup key raw ∧ (∀ v, ¬ Tells raw v) ∧ e = .configuration (complaint raw) := by
  unfold readOr
  constructor
  · intro h
    split at h
    · cases h
    · next raw hget =>
      split at h
      · cases h
      · next hraw =>
        cases h
        refine ⟨raw, get_eq_some_iff.mp hget, fun v hv => ?_, rfl⟩
        rw [(hread raw v).mpr hv] at hraw
        cases hraw
  · rintro ⟨raw, hset, hraw, rfl⟩
    have hnone : read raw = none :=
      Option.eq_none_iff_forall_ne_some.mpr fun v hv => hraw v ((hread raw v).mp hv)
    simp only [get_eq_some_iff.mpr hset, hnone, bad]

end Reading

end FabricRegistry.Settings
