import FabricRegistry.Subject
import Mathlib.Data.List.Infix

/-!
Types of events are read as they are written: the words of namespaces and operations denote what
they are the words of and nothing else, and a text that is read is the one that is written. So
reading inverts building, and reads nothing else (`read_iff_built`).
-/

namespace FabricRegistry

theorem Namespace.ofString?_eq_some_iff {s : String} {ns : Namespace} :
    ofString? s = some ns ↔ s = ns.text := by
  constructor
  · intro h
    unfold ofString? at h
    split at h <;> cases h <;> rfl
  · rintro rfl
    cases ns <;> rfl

theorem Operation.ofString?_eq_some_iff {s : String} {op : Operation} :
    ofString? s = some op ↔ s = op.text := by
  constructor
  · intro h
    unfold ofString? at h
    split at h <;> cases h <;> rfl
  · rintro rfl
    cases op <;> rfl

namespace Subject

variable {s : String} {ns : Namespace} {op : Operation}

/-- A text that is cut into three pieces at its dots is these pieces with dots between them. -/
theorem eq_of_split {a b c : String} (h : (Text.split '.' s.toList).map String.ofList = [a, b, c]) :
    s = a ++ "." ++ b ++ "." ++ c := by
  have hpieces : Text.split '.' s.toList = [a.toList, b.toList, c.toList] := by
    have htexts := congrArg (List.map String.toList) h
    simpa using htexts
  have hjoin := Text.join_split '.' s.toList
  rw [hpieces] at hjoin
  rw [← String.toList_inj, ← hjoin]
  simp [Text.join]

/-- **The texts that are read as the type of an event are the one that is written for it.** -/
theorem parseEventType?_eq_some_iff :
    parseEventType? s = some (ns, op) ↔ s = (event ns op).text := by
  constructor
  · intro h
    unfold parseEventType? at h
    split at h
    · next a b c hsplit =>
      obtain ⟨hb, h⟩ := Option.ite_none_right_eq_some.mp h
      obtain ⟨ns', hns, h⟩ := Option.bind_eq_some_iff.mp h
      obtain ⟨op', hop, h⟩ := Option.bind_eq_some_iff.mp h
      cases h
      rw [eq_of_split hsplit, hb, Namespace.ofString?_eq_some_iff.mp hns,
        Operation.ofString?_eq_some_iff.mp hop]
      rfl
    · cases h
  · rintro rfl
    cases ns <;> cases op <;> decide +kernel

/-! ### Building -/

/-- the subject that is built in a namespace when operations are set one after the other -/
def built (ns : Namespace) (ops : List Operation) : Subject := ops.foldl withOperation (channel ns)

theorem space_foldl (ops : List Operation) (x : Subject) :
    (ops.foldl withOperation x).space = x.space := by
  induction ops generalizing x with
  | nil => rfl
  | cons op ops ih => exact ih (x.withOperation op)

/-- The operation that is set last counts. -/
theorem built_append_singleton (ns : Namespace) (ops : List Operation) (op : Operation) :
    built ns (ops ++ [op]) = event ns op := by
  rw [built, List.foldl_append, List.foldl_cons, List.foldl_nil, withOperation, space_foldl]
  rfl

theorem exists_event_of_ne_nil {ops : List Operation} (h : ops ≠ []) (ns : Namespace) :
    ∃ op, built ns ops = event ns op := by
  rw [← List.dropLast_append_getLast h]
  exact ⟨_, built_append_singleton ns _ _⟩

theorem parseEventType?_eq_none_iff :
    parseEventType? s = none ↔ ∀ ns op, s ≠ (event ns op).text := by
  rw [Option.eq_none_iff_forall_ne_some]
  exact ⟨fun h ns op hs => h (ns, op) (parseEventType?_eq_some_iff.mpr hs),
    fun h x hx => h x.1 x.2 (parseEventType?_eq_some_iff.mp hx)⟩

/-! ### Texts that are no types of events -/

/-- What no type of an event is: more or fewer segments than three, an empty segment, a character
besides dots and the letters `a` to `z`, something around the type of an event, a channel. -/
inductive Misshapen (s : String) : Prop where
  | segments (h : (s.toList.splitOn '.').length ≠ 3)
  | emptySegment (h : [] ∈ s.toList.splitOn '.')
  | letter {c : Char} (hc : c ∈ s.toList) (hdot : c ≠ '.') (h : ¬ ('a' ≤ c ∧ c ≤ 'z'))
  | surrounded {front back : String} {ns : Namespace} {op : Operation} (h : front ++ back ≠ "")
      (hs : s = front ++ (event ns op).text ++ back)
  | channel {ns : Namespace} (h : s = (channel ns).text)

theorem toList_text (ns : Namespace) (op : Operation) : (event ns op).text.toList =
    ns.text.toList ++ '.' :: fabricSegment.toList ++ '.' :: op.text.toList := by
  simp [event, channel, withOperation, text]

theorem segments_text (ns : Namespace) (op : Operation) :
    (event ns op).text.toList.splitOn '.' =
      [ns.text.toList, fabricSegment.toList, op.text.toList] := by
  rw [toList_text]
  cases ns <;> cases op <;> decide +kernel

theorem letter_of_mem_text (ns : Namespace) (op : Operation) :
    ∀ c ∈ (event ns op).text.toList, c = '.' ∨ ('a' ≤ c ∧ c ≤ 'z') := by
  have hall : (event ns op).text.toList.all (fun c => c = '.' ∨ ('a' ≤ c ∧ c ≤ 'z')) = true := by
    rw [toList_text]
    cases ns <;> cases op <;> decide +kernel
  simpa using hall

/-- No type of an event has another one inside. -/
theorem eq_of_infix {ns' : Namespace} {op' : Operation}
    (h : (event ns' op').text.toList <:+: (event ns op).text.toList) : ns' = ns ∧ op' = op := by
  rw [toList_text, toList_text] at h
  -- there are finitely many types of events, so it is tried for each two of them
  revert h
  cases ns <;> cases op <;> cases ns' <;> cases op' <;> decide +kernel

theorem not_misshapen_text (ns : Namespace) (op : Operation) : ¬ Misshapen (event ns op).text := by
  intro h
  cases h with
  | segments h => exact h (by rw [segments_text]; rfl)
  | emptySegment h =>
    rw [segments_text] at h
    cases ns <;> cases op <;> exact absurd h (by decide)
  | letter hc hdot h => exact h ((letter_of_mem_text ns op _ hc).resolve_left hdot)
  | @surrounded front back ns' op' h hs =>
    obtain ⟨rfl, rfl⟩ : ns' = ns ∧ op' = op := by
      refine eq_of_infix ⟨front.toList, back.toList, ?_⟩
      rw [hs, String.toList_append, String.toList_append]
    have hlength := congrArg String.length hs
    simp only [String.length_append] at hlength
    have hnone : (front ++ back).length = 0 := by
      rw [String.length_append]
      omega
    exact h (String.length_eq_zero_iff.mp hnone)
  | @channel ns' h =>
    revert h
    cases ns <;> cases op <;> cases ns' <;> decide +kernel

/-- **Reading the type of an event inverts building it.** A text is read as a namespace and an
operation if it is the subject that is built in this namespace when any operations are set and this
one last, and nothing is read of any other text. So nothing is read of a text with more or fewer
segments or an empty one, with any characters besides the dots and the letters `a` to `z`, or with
something around the type of an event, and nothing of a channel, for which no operation is set. -/
theorem read_iff_built (s : String) (ns : Namespace) (op : Operation) :
    (∀ ops, parseEventType? s = some (ns, op) ↔ s = (built ns (ops ++ [op])).text) ∧
    (parseEventType? s = none ↔ ∀ ns ops, ops ≠ [] → s ≠ (built ns ops).text) ∧
    (Misshapen s → parseEventType? s = none) := by
  refine ⟨fun ops => ?_, ?_, fun h => ?_⟩
  · rw [built_append_singleton]
    exact parseEventType?_eq_some_iff
  · rw [parseEventType?_eq_none_iff]
    constructor
    · intro h ns ops hops
      obtain ⟨op, hop⟩ := exists_event_of_ne_nil hops ns
      rw [hop]
      exact h ns op
    · exact fun h ns op => h ns [op] (List.cons_ne_nil op [])
  · refine parseEventType?_eq_none_iff.mpr fun ns op hs => ?_
    exact not_misshapen_text ns op (hs ▸ h)

end Subject

end FabricRegistry
