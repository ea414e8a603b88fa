import FabricRegistry.Inbound.Router
import FabricRegistry.Proofs.Dialogue.Transcript
import FabricRegistry.Proofs.Json.Meaning

/-!
Where a router leads. A router comes about by registrations, one after the other, and what is
registered may be a router that came about in the same way, nested to any depth: a `Plan` tells of
all of them. Of the registrations for a subject the last one counts, whatever the case of the
letters `A` to `Z` in it, and no other letter has a case here (`Leads`). A message goes to the one
handler that it is led to, or to none (`last_registration_wins`).
-/

namespace FabricRegistry.Inbound

open Dialogue

/-- A handler, or a router by all that was registered with it, the last registration at the end. -/
inductive Plan (H : Type) where
  | handler (h : H)
  | router (registrations : List (String × Plan H))

/-- The texts differ in the case of the letters `A` to `Z` only, which are all that `String.toLower`
changes. -/
def SameSubject (a b : String) : Prop := a.toLower = b.toLower

/-- A plan leads messages with this subject to a handler, or to none. -/
inductive Leads {H : Type} (subject : String) : Plan H → Option H → Prop where
  | handler (h : H) : Leads subject (.handler h) (some h)
  | last {before name p after found} (hname : SameSubject name subject)
      (hafter : ∀ r ∈ after, ¬ SameSubject r.1 subject) (h : Leads subject p found) :
      Leads subject (.router (before ++ (name, p) :: after)) found
  | unknown {registrations} (h : ∀ r ∈ registrations, ¬ SameSubject r.1 subject) :
      Leads subject (.router registrations) none

/-- What a message that is led to a handler comes to: one call of the handler with the message as it
is, and the reply to it. A message that is led nowhere comes to nothing, which is no failure. -/
def Delivered {H : Type} (m : Message) (found : Option H)
    (calls : List (Exchange (Delivery.Reply (H := H)))) (result : Handled) : Prop :=
  match found with
  | some h => ∃ reply, calls = [⟨⟨h, m⟩, reply⟩] ∧ result = reply
  | none => calls = [] ∧ result = .ok ()

variable {H : Type} {m : Message} {subject name : String} {found : Option H}

/-! ### The making of a router -/

/-- the router with more destinations registered, one after the other -/
def Router.registerAll (r : Router H) (destinations : List (String × Destination H)) : Router H :=
  destinations.foldl (fun r d => (r.register d.1 d.2).1) r

namespace Plan

mutual
/-- the destination that is made by a plan -/
def destination : Plan H → Destination H
  | .handler h => .handler h
  | .router registrations => (Router.empty.registerAll (destinations registrations)).destination

/-- the destinations that are registered, each under its subject -/
def destinations : List (String × Plan H) → List (String × Destination H)
  | [] => []
  | (subject, p) :: rest => (subject, p.destination) :: destinations rest
end

/-- the router that is made by registrations -/
def assemble (registrations : List (String × Plan H)) : Router H :=
  Router.empty.registerAll (destinations registrations)

theorem destinations_eq_map (registrations : List (String × Plan H)) :
    destinations registrations = registrations.map fun r => (r.1, r.2.destination) := by
  induction registrations with
  | nil => rfl
  | cons r rest ih => rw [destinations, ih, List.map_cons]

end Plan

/-! ### Subjects -/

/-- Folding puts the letters `A` to `Z` in lower case, and no others. -/
theorem lowerAscii_eq_toLower (c : Char) : Text.lowerAscii c = c.toLower := by
  unfold Text.lowerAscii
  split
  · next h =>
    simp only [Bool.and_eq_true, decide_eq_true_eq, Char.le_def] at h
    have hall : ∀ n < 91, 65 ≤ n → Char.ofNat (n + 32) = (Char.ofNat n).toLower := by decide
    have hletter := hall c.toNat (Nat.lt_succ_of_le h.2) h.1
    rwa [Char.ofNat_toNat] at hletter
  · next h =>
    simp only [Bool.and_eq_true, decide_eq_true_eq, Char.le_def] at h
    change c = dite _ _ _
    rw [dif_neg h]

theorem foldSubject_eq_toLower (subject : String) : foldSubject subject = subject.toLower := by
  have hlower : subject.toLower.toList = subject.toList.map Char.toLower := String.toList_map
  refine String.toList_inj.mp ?_
  rw [foldSubject, String.toList_ofList, hlower]
  exact List.map_congr_left fun c _ => lowerAscii_eq_toLower c

example : foldSubject "ERP.Étoffe" = "erp.Étoffe" := by decide +kernel

theorem foldSubject_eq_iff :
    foldSubject name = foldSubject subject ↔ SameSubject name subject := by
  rw [foldSubject_eq_toLower, foldSubject_eq_toLower, SameSubject]

/-! ### The routes of a router -/

namespace Router

variable {r : Router H} {d : Destination H} {destinations later : List (String × Destination H)}

theorem registerAll_append (r : Router H) (destinations later : List (String × Destination H)) :
    r.registerAll (destinations ++ later) = (r.registerAll destinations).registerAll later :=
  List.foldl_append

/-- Registrations for other subjects leave the destination of a subject. -/
theorem lookup_registerAll_of_ne (h : ∀ d ∈ destinations, foldSubject d.1 ≠ subject) :
    (r.registerAll destinations).routes.lookup subject = r.routes.lookup subject := by
  induction destinations generalizing r with
  | nil => rfl
  | cons d rest ih =>
    obtain ⟨hd, hrest⟩ := List.forall_mem_cons.mp h
    rw [registerAll, List.foldl_cons]
    refine (ih hrest).trans ?_
    rw [register, Json.lookup_insertMember, if_neg (Ne.symm hd)]

/-- The last registration for a subject gives it its destination. -/
theorem lookup_registerAll_of_last (hname : foldSubject name = subject)
    (h : ∀ d ∈ later, foldSubject d.1 ≠ subject) :
    (r.registerAll (destinations ++ (name, d) :: later)).routes.lookup subject = some d := by
  rw [registerAll_append, registerAll, List.foldl_cons]
  refine (lookup_registerAll_of_ne h).trans ?_
  rw [register, Json.lookup_insertMember, if_pos hname.symm]

theorem ascending_registerAll (h : Json.Ascending r.routes)
    (destinations : List (String × Destination H)) :
    Json.Ascending (r.registerAll destinations).routes :=
  List.foldlRecOn destinations (motive := fun r : Router H => Json.Ascending r.routes) _ h
    fun _ h _ _ => h.insertMember

theorem mem_subjects_registerAll : subject ∈ (r.registerAll destinations).subjects ↔
    subject ∈ r.subjects ∨ ∃ d ∈ destinations, foldSubject d.1 = subject := by
  induction destinations generalizing r with
  | nil => simp [registerAll]
  | cons d rest ih =>
    have hregister : subject ∈ (r.register d.1 d.2).1.subjects ↔
        subject = foldSubject d.1 ∨ subject ∈ r.subjects := Json.mem_names_insertMember
    rw [registerAll, List.foldl_cons]
    refine ih.trans ?_
    rw [hregister]
    simp only [List.mem_cons, exists_eq_or_imp]
    tauto

end Router

/-- A message goes to the destination of its subject, if there is one. -/
theorem deliverAmong_eq (m : Message) (routes : List (String × Destination H)) :
    deliverAmong m routes =
      match routes.lookup (foldSubject m.subject) with
      | some d => .remark ⟨.debug, "Routing message"⟩ (d.deliver m)
      | none =>
        .remark ⟨.warn, "No handler registered for subject; dropping message"⟩
          (.done (.ok ())) := by
  induction routes with
  | nil => rfl
  | cons route routes ih =>
    obtain ⟨key, d⟩ := route
    rw [deliverAmong, lookup_cons_eq]
    by_cases h : key = foldSubject m.subject
    · rw [if_pos h, if_pos h.symm]
    · rw [if_neg h, if_neg (Ne.symm h), ih]

/-! ### Where messages go -/

theorem lookup_assemble_of_last {before after : List (String × Plan H)} {p : Plan H}
    (hname : SameSubject name subject) (hafter : ∀ r ∈ after, ¬ SameSubject r.1 subject) :
    (Plan.assemble (before ++ (name, p) :: after)).routes.lookup (foldSubject subject) =
      some p.destination := by
  rw [Plan.assemble, Plan.destinations_eq_map, List.map_append, List.map_cons]
  refine Router.lookup_registerAll_of_last (foldSubject_eq_iff.mpr hname) ?_
  intro d hd
  obtain ⟨r, hr, rfl⟩ := List.mem_map.mp hd
  exact fun h => hafter r hr (foldSubject_eq_iff.mp h)

theorem lookup_assemble_of_unknown {registrations : List (String × Plan H)}
    (h : ∀ r ∈ registrations, ¬ SameSubject r.1 subject) :
    (Plan.assemble registrations).routes.lookup (foldSubject subject) = none := by
  rw [Plan.assemble, Plan.destinations_eq_map, Router.lookup_registerAll_of_ne]
  · rfl
  · intro d hd
    obtain ⟨r, hr, rfl⟩ := List.mem_map.mp hd
    exact fun hname => h r hr (foldSubject_eq_iff.mp hname)

/-- A message arrives where the plan leads it. -/
theorem Leads.delivered {p : Plan H} (h : Leads m.subject p found)
    {calls : List (Exchange (Delivery.Reply (H := H)))} {result : Handled}
    (ht : Transcript (p.destination.deliver m) calls result) : Delivered m found calls result := by
  induction h with
  | handler h =>
    obtain ⟨reply, rest, rfl, hrest⟩ := transcript_ask_iff.mp ht
    obtain ⟨rfl, rfl⟩ := transcript_done_iff.mp hrest
    exact ⟨result, rfl, rfl⟩
  | @last before name p after found hname hafter _ ih =>
    have hroute : Transcript (deliverAmong m (Plan.assemble (before ++ (name, p) :: after)).routes)
        calls result := ht
    rw [deliverAmong_eq, lookup_assemble_of_last hname hafter] at hroute
    exact ih (transcript_remark_iff.mp hroute)
  | @unknown registrations h =>
    have hroute : Transcript (deliverAmong m (Plan.assemble registrations).routes)
        calls result := ht
    rw [deliverAmong_eq, lookup_assemble_of_unknown h] at hroute
    exact transcript_done_iff.mp (transcript_remark_iff.mp hroute)

/-- Of the registrations for a subject, if there are any, one is the last. -/
theorem exists_last_registration (subject : String) (registrations : List (String × Plan H)) :
    (∀ r ∈ registrations, ¬ SameSubject r.1 subject) ∨
    ∃ before name p after, registrations = before ++ (name, p) :: after ∧
      SameSubject name subject ∧ ∀ r ∈ after, ¬ SameSubject r.1 subject := by
  induction registrations with
  | nil => exact Or.inl nofun
  | cons r rest ih =>
    rcases ih with hnone | ⟨before, name, p, after, rfl, hname, hafter⟩
    · by_cases hr : SameSubject r.1 subject
      · exact Or.inr ⟨[], r.1, r.2, rest, rfl, hr, hnone⟩
      · exact Or.inl (List.forall_mem_cons.mpr ⟨hr, hnone⟩)
    · exact Or.inr ⟨r :: before, name, p, after, rfl, hname, hafter⟩

theorem exists_leads (subject : String) : ∀ p : Plan H, ∃ found, Leads subject p found
  | .handler h => ⟨some h, .handler h⟩
  | .router registrations => by
    rcases exists_last_registration subject registrations with
      hnone | ⟨before, name, p, after, hlast, hname, hafter⟩
    · exact ⟨none, .unknown hnone⟩
    · have hp : sizeOf (name, p) < sizeOf registrations :=
        List.sizeOf_lt_of_mem (hlast ▸ List.mem_append_cons_self)
      obtain ⟨found, h⟩ := exists_leads subject p
      exact ⟨found, hlast ▸ .last hname hafter h⟩
termination_by p => sizeOf p
decreasing_by
  simp only [Prod.mk.sizeOf_spec, Plan.router.sizeOf_spec] at hp ⊢
  omega

/-- **The last registration for a subject counts.** Let a router be made by any registrations, of
handlers and of routers that are made in the same way. Its subjects ascend, and they are the
registered ones with `A` to `Z` in lower case. Whatever handlers reply, a message comes to one call
of the handler to which the last registration for its subject leads, with the message as it is, and
to the reply; or to nothing, where no registration is for its subject. -/
theorem last_registration_wins (registrations : List (String × Plan H)) :
    let r := Plan.assemble registrations
    r.subjects.Pairwise (· < ·) ∧
    (∀ subject, subject ∈ r.subjects ↔ ∃ s ∈ registrations, s.1.toLower = subject) ∧
    (∀ subject, ∃ found, Leads subject (.router registrations) found) ∧
    ∀ (m : Message) (found : Option H), Leads m.subject (.router registrations) found →
      Always (r.route m) (Delivered m found) := by
  intro r
  refine ⟨?_, fun subject => ?_, fun subject => exists_leads subject _, fun m found h => ?_⟩
  · exact List.pairwise_map.mpr (Router.ascending_registerAll List.Pairwise.nil _)
  · refine Router.mem_subjects_registerAll.trans ?_
    simp [Plan.destinations_eq_map, Router.empty, Router.subjects, foldSubject_eq_toLower]
  · exact always_of_transcript fun calls result ht => h.delivered ht

end FabricRegistry.Inbound
