import FabricRegistry.Proofs.Catalogue.Writes
import FabricRegistry.Proofs.Command.Effect
import FabricRegistry.Proofs.Fabric.Body

/-!
The form of what is kept. A row that a command writes has a code, a name and a version as they
should be, whatever texts the command came with, as long as the rows before it have. The envelope of
a fact says the same of it in its own fields and in its payload, and only the first version of a
fabric is a creation.
-/

namespace FabricRegistry

/-- A text that can be a code: 2 to 30 characters, every one an upper case letter or a digit of
ASCII. -/
def IsCodeText (text : String) : Prop :=
  (2 ≤ text.length ∧ text.length ≤ 30) ∧
    ∀ c ∈ text.toList, ('A' ≤ c ∧ c ≤ 'Z') ∨ ('0' ≤ c ∧ c ≤ '9')

theorem Code.isCodeText (code : Code) : IsCodeText code.text := by
  refine ⟨code.length_mem, fun c hc => ?_⟩
  simpa [isCodeChar] using List.all_eq_true.mp code.chars_mem c hc

/-- Details have a name of 1 to 250 characters. -/
def Details.Named (d : Details) : Prop := 1 ≤ d.name.length ∧ d.name.length ≤ 250

theorem Details.validate_eq_ok_iff {d : Details} : d.validate = .ok () ↔ d.Named := by
  unfold validate Named
  split <;> simp_all

/-- A row as it may be kept. -/
structure Fabric.WellFormed (row : Fabric) : Prop where
  code : IsCodeText row.code.text
  named : row.details.Named
  version : 1 ≤ row.version

/-! ### Rows -/

section Rows

variable {t : Catalogue.Table} {c : Command} {f : Fabric}

/-- **What a command writes is well formed.** A creation and an update check the name that they were
given, and a deletion keeps the name of the row. -/
theorem Command.wellFormed_of_effect (ht : ∀ row ∈ t.rows, row.WellFormed)
    (h : effect t c = .ok f) : f.settled.WellFormed := by
  cases c with
  | create text d =>
    obtain ⟨code, -, hd, ⟨-, rfl⟩ | ⟨row, -, -, rfl⟩⟩ := effect_create_eq_ok h
    · exact ⟨code.isCodeText, Details.validate_eq_ok_iff.mp hd, Nat.le_refl 1⟩
    · exact ⟨code.isCodeText, Details.validate_eq_ok_iff.mp hd, Nat.le_add_left 1 _⟩
  | update text d expected =>
    obtain ⟨code, row, -, -, -, -, hd, rfl⟩ := effect_update_eq_ok h
    exact ⟨code.isCodeText, Details.validate_eq_ok_iff.mp hd, Nat.le_add_left 1 _⟩
  | delete text expected =>
    obtain ⟨code, row, -, hr, -, -, rfl⟩ := effect_delete_eq_ok h
    have hrow := ht row (Catalogue.Table.mem_of_find? hr)
    exact ⟨code.isCodeText, hrow.named, Nat.le_add_left 1 _⟩

/-- **A command leaves well-formed rows.** -/
theorem Command.wellFormed_settle_effect (ht : ∀ row ∈ t.rows, row.WellFormed) (c : Command) :
    ∀ row ∈ (t.settle (effect t c)).rows, row.WellFormed := by
  cases h : effect t c with
  | error e => exact ht
  | ok f =>
    intro row hrow
    rcases Catalogue.Table.mem_put hrow with rfl | hrow
    · exact wellFormed_of_effect ht h
    · exact ht row hrow

end Rows

/-! ### Envelopes -/

/-- **An envelope that tells of a fact.** It lacks nothing, and its type, its aggregate and its
version are those of the fact, as are the code and the version in its payload. -/
structure Envelope.Tells (e : Envelope) (x : Fact) : Prop where
  valid : e.validate = .ok ()
  aggregateType : e.aggregateType = "fabric"
  eventVersion : e.eventVersion = 1
  eventType : Subject.parseEventType? e.eventType = some (.app, x.operation)
  aggregateId : e.aggregateId = x.code.text
  aggregateVersion : e.aggregateVersion = x.version
  body : e.payload = x.body
  members : ∃ members, e.payload = .object members ∧
    members.lookup "code" = some (.string e.aggregateId) ∧
    members.lookup "version" = some (.int e.aggregateVersion)

theorem Envelope.tells_ofFact (stamp : Stamp) (x : Fact) (p : Provenance) :
    (ofFact stamp x p).Tells x where
  valid := validate_ofFact stamp x p
  aggregateType := rfl
  eventVersion := rfl
  eventType := x.parseEventType?_eventType
  aggregateId := rfl
  aggregateVersion := rfl
  body := rfl
  members := by
    refine ⟨_, x.body_eq, rfl, ?_⟩
    cases x.change.details? <;> rfl

theorem Fact.eventType_eq_created_iff {x : Fact} :
    x.eventType = "app.fabric.created" ↔ x.operation = .created := by
  unfold eventType
  generalize x.operation = op
  cases op <;> decide

/-- Creations are the facts that find no row. -/
theorem Fact.created_iff_eq_none {x : Fact} {before : Option Fabric} {row : Fabric}
    (h : x.onto? before = some row) : x.operation = .created ↔ before = none := by
  obtain ⟨code, version, change⟩ := x
  cases before <;> cases change <;> simp_all [onto?, operation, Change.operation]

/-- Where rows have versions from 1 on, creations are the facts that lead to version 1. -/
theorem Fact.created_iff_of_onto? {x : Fact} {before : Option Fabric} {row : Fabric}
    (h : x.onto? before = some row) (hv : ∀ old, before = some old → 1 ≤ old.version) :
    x.operation = .created ↔ x.version = 1 := by
  obtain ⟨hversion, -⟩ := version_of_onto? h
  rw [created_iff_eq_none h, hversion]
  cases before with
  | none => simp
  | some old =>
    have hold := hv old rfl
    simp only [reduceCtorEq, Fabric.versionOf_some, false_iff]
    omega

end FabricRegistry
