import FabricRegistry.Proofs.Feed.Once
import FabricRegistry.Proofs.Feed.Sequence

/-!
The registry keeps in step with the ERP system. A *history* is what the ERP system tells of one
code, from its creation on, each event with the version that it led to. When the events of a history
arrive in order, with events among them that arrived before, then after every arrival the row of the
code has the version, the status and the details that the history has led to so far, and the trail
has one envelope for each version (`feed_aligned`).

An update or a deletion that arrives again names a version that has passed. A creation names none,
so it must not arrive again while the fabric is deleted.
-/

namespace FabricRegistry.Inbound

/-- a message that can be read and whose envelope lacks nothing -/
structure Event where
  payload : ByteArray
  notice : Notice
  reads : Notice.ofBytes? payload = some notice
  valid : notice.envelope.validate = .ok ()

namespace Notice

/-- the status that the event led to -/
def status (x : Notice) : Status := if x.operation = .deleted then .deleted else .active

/-- the details that a creation or an update sets, where none is left to a default -/
def given? (x : Notice) : Option Details :=
  match x.operation, x.announcement.measureUnit, x.announcement.offerStatus with
  | .created, some m, some o | .updated, some m, some o =>
    if m = "" ∨ o = "" then none else some ⟨x.announcement.name, m, o⟩
  | _, _, _ => none

variable {x : Notice} {d : Details}

theorem details_of_given (h : x.given? = some d) (defaults : FeedDefaults) :
    x.announcement.details defaults = d := by
  unfold given? at h
  split at h
  all_goals simp_all [Announcement.details, Announcement.orDefault]

theorem given_of_deleted (h : x.operation = .deleted) : x.given? = none := by
  unfold given?
  rw [h]

end Notice

/-! ### Histories -/

/-- After these events the fabric is alive. -/
def Alive (earlier : List Notice) : Prop := ∃ x ∈ earlier.getLast?, x.status = .active

/-- After `earlier` the ERP system may tell this. -/
inductive Next (earlier : List Notice) (x : Notice) : Prop where
  | created {d} (hop : x.operation = .created) (hdead : ¬ Alive earlier) (hd : x.given? = some d)
      (hname : d.validate = .ok ()) : Next earlier x
  | updated {d} (hop : x.operation = .updated) (halive : Alive earlier) (hd : x.given? = some d)
      (hname : d.validate = .ok ()) : Next earlier x
  | deleted (hop : x.operation = .deleted) (halive : Alive earlier) : Next earlier x

/-- what the ERP system tells of one code, each event with the version that it led to -/
inductive History (code : Code) : List Notice → Prop where
  | nil : History code []
  | snoc {earlier x} (h : History code earlier) (hx : Next earlier x) (hcode : x.code = code.text)
      (hversion : x.version = earlier.length + 1) : History code (earlier ++ [x])

theorem History.at {code : Code} {xs : List Notice} (h : History code xs) {i : ℕ} {x : Notice}
    (hi : xs[i]? = some x) :
    Next (xs.take i) x ∧ x.code = code.text ∧ x.version = i + 1 := by
  induction h with
  | nil => simp at hi
  | @snoc earlier y _ hy hcode hversion ih =>
    have hlt := (List.getElem?_eq_some_iff.mp hi).1
    rw [List.length_append, List.length_singleton] at hlt
    rcases Nat.lt_succ_iff_lt_or_eq.mp hlt with hlt | rfl
    · rw [List.getElem?_append_left hlt] at hi
      rw [List.take_append_of_le_length hlt.le]
      exact ih hi
    · rw [List.getElem?_concat_length] at hi
      obtain rfl := Option.some.inj hi
      rw [List.take_left]
      exact ⟨hy, hcode, hversion⟩

/-- the row that a history leaves: the details of the last creation or update, the status and the
version of the last event -/
inductive Leaves (code : Code) (xs : List Notice) : Option Fabric → Prop where
  | nothing (h : xs = []) : Leaves code xs none
  | row {x d} (hx : xs.getLast? = some x) (hd : (xs.filterMap Notice.given?).getLast? = some d) :
      Leaves code xs (some (.restore code d x.status xs.length))

namespace Leaves

variable {code : Code} {xs : List Notice} {x : Notice} {r : Option Fabric} {d : Details}

theorem versionOf_eq (h : Leaves code xs r) : Fabric.versionOf r = xs.length := by
  cases h with
  | nothing h =>
    rw [h]
    rfl
  | row _ _ => rfl

theorem of_alive (h : Leaves code xs r) (halive : Alive xs) :
    ∃ d, (xs.filterMap Notice.given?).getLast? = some d ∧
      r = some (.restore code d .active xs.length) := by
  obtain ⟨y, hy, hstatus⟩ := halive
  cases h with
  | nothing h =>
    rw [h] at hy
    cases hy
  | row hx hd =>
    obtain rfl := Option.some.inj (hx.symm.trans hy)
    exact ⟨_, hd, by rw [hstatus]⟩

theorem of_dead (h : Leaves code xs r) (hdead : ¬ Alive xs) :
    xs = [] ∧ r = none ∨ ∃ d, r = some (.restore code d .deleted xs.length) := by
  cases h with
  | nothing h => exact Or.inl ⟨h, rfl⟩
  | @row y d hy _ =>
    refine Or.inr ⟨d, ?_⟩
    cases hstatus : y.status with
    | active => exact absurd ⟨y, hy, hstatus⟩ hdead
    | deleted => rfl

theorem snoc_of_given (code : Code) (xs : List Notice) (hd : x.given? = some d) :
    Leaves code (xs ++ [x]) (some (.restore code d x.status (xs.length + 1))) := by
  rw [← List.length_concat (a := x), List.concat_eq_append]
  exact .row (by simp) (by simp [hd])

theorem snoc_of_deleted (code : Code) (hlast : (xs.filterMap Notice.given?).getLast? = some d)
    (hop : x.operation = .deleted) :
    Leaves code (xs ++ [x]) (some (.restore code d .deleted (xs.length + 1))) := by
  have hstatus : x.status = .deleted := if_pos hop
  rw [← hstatus, ← List.length_concat (a := x), List.concat_eq_append]
  exact .row (by simp) (by simpa [Notice.given_of_deleted hop] using hlast)

end Leaves

end FabricRegistry.Inbound

namespace FabricRegistry.Traffic

open Command (effect)
open Inbound (Alive Event Feed History Leaves Next Notice)

/-! ### Deliveries of a history -/

/-- A message tells again what one of the first `j` events told, which is no creation unless the
fabric is alive after these events. -/
def Repeats (events : List Event) (j : ℕ) (n : Intake) : Prop :=
  ∃ i e, i < j ∧ events[i]? = some e ∧ n.message.payload = e.payload ∧
    (e.notice.operation = .created → Alive ((events.map Event.notice).take j))

/-- Messages follow the first `j` events: each arrives in its turn, and some of them again. -/
inductive Follows (events : List Event) : List Intake → ℕ → Prop where
  | nil : Follows events [] 0
  | next {σ j n e} (h : Follows events σ j) (he : events[j]? = some e)
      (hn : n.message.payload = e.payload) : Follows events (σ ++ [n]) (j + 1)
  | again {σ j n} (h : Follows events σ j) (hn : Repeats events j n) :
      Follows events (σ ++ [n]) j

/-- The stores have what a history leaves, and nothing else. -/
structure Aligned (code : Code) (xs : List Notice) (s : Stores) : Prop where
  row : Leaves code xs (s.table.find? code)
  others : ∀ other, other ≠ code → s.table.find? other = none
  /-- one envelope for each version, in order -/
  trail : s.ledger.events.map Envelope.key = (List.range' 1 xs.length).map (code.text, ·)
  keys : s.ledger.keys = s.ledger.events.map Envelope.key
  /-- nothing is published -/
  silent : s.handed = []

variable {channel : Channel} {code : Code} {xs : List Notice} {x : Notice} {s : Stores}
  {n : Intake} {events : List Event} {σ : List Intake} {j : ℕ} {f : Fabric} {e : Event}

theorem Follows.le_length (h : Follows events σ j) : j ≤ events.length := by
  induction h with
  | nil => exact Nat.zero_le _
  | next _ he _ _ => exact (List.getElem?_eq_some_iff.mp he).1
  | again _ _ ih => exact ih

namespace Aligned

theorem empty (code : Code) : Aligned code [] .empty :=
  ⟨.nothing rfl, fun _ _ => rfl, rfl, rfl, rfl⟩

theorem orderly (h : Aligned code xs s) : s.Orderly := by
  refine ⟨fun other row hrow => ?_, fun key hkey => ?_⟩
  · by_cases hother : other = code
    · have hleaves := h.row
      rw [← hother, hrow] at hleaves
      cases hleaves with
      | row hx _ =>
        refine ⟨rfl, List.length_pos_iff.mpr ?_⟩
        rintro rfl
        cases hx
    · rw [h.others other hother] at hrow
      cases hrow
  · rw [h.keys, h.trail] at hkey
    obtain ⟨v, hv, rfl⟩ := List.mem_map.mp hkey
    refine ⟨code, rfl, ?_⟩
    rw [Catalogue.Table.versionOf, h.row.versionOf_eq]
    rw [List.mem_range'_1] at hv
    omega

/-- The next event of a history is applied to what the history left. -/
theorem effect_of_next (h : Aligned code xs s) (hnext : Next xs x) (hcode : x.code = code.text)
    (hversion : x.version = xs.length + 1) (hx : Notice.ofBytes? n.message.payload = some x)
    (hv : x.envelope.validate = .ok ()) :
    ∃ f, effect s.table n.job.command = .ok f ∧ f.code = code ∧ f.version = xs.length + 1 ∧
      Leaves code (xs ++ [x]) (some f.settled) := by
  have hc : Code.ofString x.code = .ok code := hcode ▸ Code.ofString_text code
  have h0 : x.version ≠ 0 := by omega
  have hbefore : x.version - 1 = xs.length := by omega
  cases hnext with
  | @created d hop hdead hd hname =>
    have hdetails := Notice.details_of_given hd n.feed.defaults
    have hleaves := Leaves.snoc_of_given code xs hd
    rw [Notice.status, hop, if_neg (by decide)] at hleaves
    rw [Intake.command_of_notice hx hv (Feed.command_of_created hop), hdetails]
    rcases h.row.of_dead hdead with ⟨rfl, hrow⟩ | ⟨d', hrow⟩
    · exact ⟨_, Command.effect_create_of_none hc hname hrow, rfl, rfl, hleaves⟩
    · exact ⟨_, Command.effect_create_of_deleted hc hname hrow rfl, rfl, rfl, hleaves⟩
  | @updated d hop halive hd hname =>
    have hdetails := Notice.details_of_given hd n.feed.defaults
    have hleaves := Leaves.snoc_of_given code xs hd
    rw [Notice.status, hop, if_neg (by decide)] at hleaves
    obtain ⟨d', -, hrow⟩ := h.row.of_alive halive
    have hcommand := Intake.command_of_notice hx hv
      (Feed.command_of_updated hop h0 (hdetails ▸ hname))
    rw [hcommand, hdetails, hbefore]
    have hcurrent := Command.current_of_active hc hrow rfl rfl
    exact ⟨_, Command.effect_update_of_current hcurrent hname, rfl, rfl, hleaves⟩
  | deleted hop halive =>
    obtain ⟨d', hlast, hrow⟩ := h.row.of_alive halive
    rw [Intake.command_of_notice hx hv (Feed.command_of_deleted hop h0), hbefore]
    have hcurrent := Command.current_of_active hc hrow rfl rfl
    exact ⟨_, Command.effect_delete_of_current hcurrent, rfl, rfl,
      Leaves.snoc_of_deleted code hlast hop⟩

/-- **The next event of a history keeps the stores in step.** -/
theorem snoc (channel : Channel) (h : Aligned code xs s) (hnext : Next xs x)
    (hcode : x.code = code.text) (hversion : x.version = xs.length + 1)
    (hx : Notice.ofBytes? n.message.payload = some x) (hv : x.envelope.validate = .ok ()) :
    (s.handle channel n).1 = .ok () ∧ Aligned code (xs ++ [x]) (s.handle channel n).2 := by
  obtain ⟨f, hf, rfl, hfversion, hleaves⟩ := h.effect_of_next hnext hcode hversion hx hv
  obtain ⟨_, e, -, -, hkey, hhandle⟩ := Stores.handle_of_ok channel h.orderly hf
  rw [hhandle]
  refine ⟨rfl, ?_, fun other hne => ?_, ?_, ?_, h.silent⟩
  · show Leaves f.code (xs ++ [x]) ((s.table.put f.settled).find? f.settled.code)
    rwa [Catalogue.Table.find?_put_self]
  · show (s.table.put f.settled).find? other = none
    rw [Catalogue.Table.find?_put, Fabric.settled_code, if_neg hne.symm]
    exact h.others other hne
  · show (s.ledger.events ++ [e]).map Envelope.key = _
    rw [List.map_append, h.trail, List.map_singleton, hkey, hfversion, List.length_append,
      List.length_singleton, List.range'_1_concat, List.map_append, List.map_singleton,
      Nat.add_comm 1]
  · show s.ledger.keys ++ [e.key] = (s.ledger.events ++ [e]).map Envelope.key
    rw [h.keys, List.map_append, List.map_singleton]

/-- **An event that arrived before changes nothing.** -/
theorem again (channel : Channel) (hhistory : History code (events.map Event.notice))
    (h : Aligned code ((events.map Event.notice).take j) s) (hj : j ≤ events.length)
    (hn : Repeats events j n) : s.handle channel n = (.ok (), s) := by
  obtain ⟨i, e, hij, he, hpayload, halive⟩ := hn
  have hx : Notice.ofBytes? n.message.payload = some e.notice := hpayload ▸ e.reads
  have hat : (events.map Event.notice)[i]? = some e.notice := by
    rw [List.getElem?_map, he]
    rfl
  have hlength : ((events.map Event.notice).take j).length = j := by simpa using hj
  obtain ⟨hnext, hcode, hversion⟩ := hhistory.at hat
  have hc : Code.ofString e.notice.code = .ok code := hcode ▸ Code.ofString_text code
  -- an update or a deletion could only write the version `i + 1`, which the row has passed
  have hrevises (hr : e.notice.Revises) : s.handle channel n = (.ok (), s) := by
    cases heffect : effect s.table n.job.command with
    | error err => exact Stores.handle_of_error h.orderly heffect
    | ok f =>
      obtain ⟨row, hcode', hrow, -, hv, -⟩ := Intake.effect_of_revises hx hr heffect
      obtain rfl : code = f.code := Except.ok.inj (hc.symm.trans hcode')
      have hrowversion := h.row.versionOf_eq
      rw [hrow, Fabric.versionOf_some, hlength] at hrowversion
      omega
  cases hnext with
  | created hop _ hd hname =>
    obtain ⟨d, -, hrow⟩ := h.row.of_alive (halive hop)
    refine Stores.handle_of_error h.orderly (e := .duplicateCode code) ?_
    rw [Intake.command_of_notice hx e.valid (Feed.command_of_created hop),
      Notice.details_of_given hd]
    exact Command.effect_create_of_active hc hname hrow rfl
  | updated hop _ _ _ => exact hrevises (Or.inl hop)
  | deleted hop _ => exact hrevises (Or.inr hop)

end Aligned

theorem Follows.aligned (channel : Channel) (h : Follows events σ j)
    (hhistory : History code (events.map Event.notice)) :
    (handleAll channel σ .empty).1 = List.replicate σ.length (.ok ()) ∧
      Aligned code ((events.map Event.notice).take j) (handleAll channel σ .empty).2 := by
  induction h with
  | nil => exact ⟨rfl, .empty code⟩
  | @next σ j n e h he hn ih =>
    obtain ⟨hresults, haligned⟩ := ih
    have hat : (events.map Event.notice)[j]? = some e.notice := by
      rw [List.getElem?_map, he]
      rfl
    obtain ⟨hnext, hcode, hversion⟩ := hhistory.at hat
    have hlength : ((events.map Event.notice).take j).length = j := by
      simpa using h.le_length
    obtain ⟨hok, hsnoc⟩ := haligned.snoc channel hnext hcode
      (hlength.symm ▸ hversion) (hn ▸ e.reads) e.valid
    rw [handleAll_append_singleton, List.length_append, List.length_singleton,
      List.replicate_succ', List.take_add_one, hat]
    exact ⟨by rw [hresults, hok], hsnoc⟩
  | @again σ j n h hn ih =>
    obtain ⟨hresults, haligned⟩ := ih
    rw [handleAll_append_singleton, List.length_append, List.length_singleton,
      List.replicate_succ', haligned.again channel hhistory h.le_length hn]
    exact ⟨by rw [hresults], haligned⟩

/-- **The registry keeps in step with the ERP system.** Let messages follow the first `j` events of a
history, handled one at a time and in time, from empty stores. All are acknowledged; the row and the
trail are what these events leave; and no event that may arrive again changes anything. -/
theorem feed_aligned (channel : Channel) (hhistory : History code (events.map Event.notice))
    (h : Follows events σ j) :
    let s := (handleAll channel σ .empty).2
    (handleAll channel σ .empty).1 = List.replicate σ.length (.ok ()) ∧
    Aligned code ((events.map Event.notice).take j) s ∧
    ∀ n, Repeats events j n → s.handle channel n = (.ok (), s) := by
  obtain ⟨hresults, haligned⟩ := h.aligned channel hhistory
  refine ⟨hresults, haligned, fun n hn => ?_⟩
  exact haligned.again channel hhistory h.le_length hn

end FabricRegistry.Traffic

namespace FabricRegistry.Inbound.Notice

/-! ### The life of a linen -/

/-- the linen goes on sale -/
def linenUpdatedText : String :=
  "\x7b\"event_id\": \"00000000000000000000000000000002\",
  \"event_type\": \"erp.fabric.updated\", \"aggregate_id\": \"LN100\",
  \"aggregate_type\": \"fabric\", \"aggregate_version\": 2, \"timestamp\": \"2025-01-01T00:00:00Z\",
  \"payload\": \x7b\"fabric_code\": \"LN100\", \"fabric_name\": \"Linen\",
  \"measure_unit\": \"m\", \"offer_status\": \"SALE\"\x7d\x7d"

@[irreducible] def linenUpdated : ByteArray := linenUpdatedText.toUTF8

set_option maxRecDepth 4000 in
theorem told_linenUpdated : Told linenUpdated .updated 2 ⟨"LN100", "Linen", some "m", some "SALE"⟩ := by
  unfold linenUpdated
  exact told_of_ofChars? (by decide +kernel)

/-- the linen is given up -/
def linenDeletedText : String :=
  "\x7b\"event_id\": \"00000000000000000000000000000003\",
  \"event_type\": \"erp.fabric.deleted\", \"aggregate_id\": \"LN100\",
  \"aggregate_type\": \"fabric\", \"aggregate_version\": 3, \"timestamp\": \"2025-01-01T00:00:00Z\",
  \"payload\": \x7b\"fabric_code\": \"LN100\"\x7d\x7d"

@[irreducible] def linenDeleted : ByteArray := linenDeletedText.toUTF8

set_option maxRecDepth 4000 in
theorem told_linenDeleted : Told linenDeleted .deleted 3 ⟨"LN100", "", none, none⟩ := by
  unfold linenDeleted
  exact told_of_ofChars? (by decide +kernel)

/-- the linen is created again -/
def linenBackText : String :=
  "\x7b\"event_id\": \"00000000000000000000000000000004\",
  \"event_type\": \"erp.fabric.created\", \"aggregate_id\": \"LN100\",
  \"aggregate_type\": \"fabric\", \"aggregate_version\": 4, \"timestamp\": \"2025-01-01T00:00:00Z\",
  \"payload\": \x7b\"fabric_code\": \"LN100\", \"fabric_name\": \"Linen\",
  \"measure_unit\": \"m\", \"offer_status\": \"BACK\"\x7d\x7d"

@[irreducible] def linenBack : ByteArray := linenBackText.toUTF8

set_option maxRecDepth 4000 in
theorem told_linenBack : Told linenBack .created 4 ⟨"LN100", "Linen", some "m", some "BACK"⟩ := by
  unfold linenBack
  exact told_of_ofChars? (by decide +kernel)

end FabricRegistry.Inbound.Notice

namespace FabricRegistry.Traffic

open Inbound (Event History Leaves Next Notice)

theorem exists_event {payload : ByteArray} {op : Operation} {version : ℕ}
    {a : Inbound.Announcement} (h : Notice.Told payload op version a) :
    ∃ (e : Event) (v : Envelope), e.payload = payload ∧ e.notice = ⟨v, op, a⟩ ∧
      v.aggregateVersion = version := by
  obtain ⟨⟨v, op, a⟩, hx, hvalid, rfl, rfl, rfl⟩ := h
  exact ⟨⟨payload, ⟨v, op, a⟩, hx, hvalid⟩, v, rfl, rfl, rfl⟩

/-- The linen is created, goes on sale, is given up and comes back. Its creation arrives three
times, each time while it is alive, and the sale once more when it is given up. -/
def linenFeed : List Intake :=
  [.ofPayload Notice.linenCreated, .ofPayload Notice.linenCreated, .ofPayload Notice.linenUpdated,
    .ofPayload Notice.linenDeleted, .ofPayload Notice.linenUpdated, .ofPayload Notice.linenBack,
    .ofPayload Notice.linenCreated]

/-- what the messages tell, in four envelopes -/
def linenNotices (v₁ v₂ v₃ v₄ : Envelope) : List Notice :=
  [⟨v₁, .created, ⟨"LN100", "Linen", some "m", some "NEW"⟩⟩,
    ⟨v₂, .updated, ⟨"LN100", "Linen", some "m", some "SALE"⟩⟩,
    ⟨v₃, .deleted, ⟨"LN100", "", none, none⟩⟩,
    ⟨v₄, .created, ⟨"LN100", "Linen", some "m", some "BACK"⟩⟩]

theorem linenNotices_history {v₁ v₂ v₃ v₄ : Envelope} (h₁ : v₁.aggregateVersion = 1)
    (h₂ : v₂.aggregateVersion = 2) (h₃ : v₃.aggregateVersion = 3) (h₄ : v₄.aggregateVersion = 4) :
    History linen (linenNotices v₁ v₂ v₃ v₄) := by
  have hname (offer : String) : (⟨"Linen", "m", offer⟩ : Details).validate = .ok () :=
    if_pos (by decide : 1 ≤ "Linen".length ∧ "Linen".length ≤ 250)
  refine History.snoc (.snoc (.snoc (.snoc .nil ?_ rfl ?_) ?_ rfl ?_) ?_ rfl ?_) ?_ rfl ?_
  · exact .created rfl (by simp [Inbound.Alive]) rfl (hname _)
  · exact h₁
  · exact .updated rfl ⟨_, rfl, rfl⟩ rfl (hname _)
  · exact h₂
  · exact .deleted rfl ⟨_, rfl, rfl⟩
  · exact h₃
  · exact .created rfl (by simp [Inbound.Alive, Notice.status]) rfl (hname _)
  · exact h₄

theorem linenFeed_follows {e₁ e₂ e₃ e₄ : Event} {v₁ v₂ v₃ v₄ : Envelope}
    (h₁ : e₁.payload = Notice.linenCreated) (h₂ : e₂.payload = Notice.linenUpdated)
    (h₃ : e₃.payload = Notice.linenDeleted) (h₄ : e₄.payload = Notice.linenBack)
    (hnotices : [e₁, e₂, e₃, e₄].map Event.notice = linenNotices v₁ v₂ v₃ v₄) :
    Follows [e₁, e₂, e₃, e₄] linenFeed 4 := by
  have halive : Inbound.Alive (([e₁, e₂, e₃, e₄].map Event.notice).take 1) := by
    rw [hnotices]
    exact ⟨_, rfl, rfl⟩
  have halive' : Inbound.Alive (([e₁, e₂, e₃, e₄].map Event.notice).take 4) := by
    rw [hnotices]
    exact ⟨_, rfl, rfl⟩
  have hupdated : e₂.notice.operation = .updated := by
    have hat := congrArg (·[1]?) hnotices
    exact congrArg Notice.operation (Option.some.inj hat)
  have f₁ : Follows [e₁, e₂, e₃, e₄] (linenFeed.take 1) 1 := .next .nil rfl h₁.symm
  have f₂ : Follows [e₁, e₂, e₃, e₄] (linenFeed.take 2) 1 :=
    .again f₁ ⟨0, e₁, by decide, rfl, h₁.symm, fun _ => halive⟩
  have f₃ : Follows [e₁, e₂, e₃, e₄] (linenFeed.take 3) 2 := .next f₂ rfl h₂.symm
  have f₄ : Follows [e₁, e₂, e₃, e₄] (linenFeed.take 4) 3 := .next f₃ rfl h₃.symm
  have f₅ : Follows [e₁, e₂, e₃, e₄] (linenFeed.take 5) 3 :=
    .again f₄ ⟨1, e₂, by decide, rfl, h₂.symm, fun hop => by rw [hupdated] at hop; cases hop⟩
  have f₆ : Follows [e₁, e₂, e₃, e₄] (linenFeed.take 6) 4 := .next f₅ rfl h₄.symm
  exact .again f₆ ⟨0, e₁, by decide, rfl, h₁.symm, fun _ => halive'⟩

theorem feed_aligned_linen : ∃ s : Stores,
    handleAll .silent linenFeed .empty = (List.replicate 7 (.ok ()), s) ∧
    s.table.find? linen = some (.restore linen ⟨"Linen", "m", "BACK"⟩ .active 4) ∧
    s.ledger.events.map Envelope.key = [("LN100", 1), ("LN100", 2), ("LN100", 3), ("LN100", 4)] := by
  obtain ⟨e₁, v₁, hp₁, hn₁, hv₁⟩ := exists_event Notice.told_linenCreated
  obtain ⟨e₂, v₂, hp₂, hn₂, hv₂⟩ := exists_event Notice.told_linenUpdated
  obtain ⟨e₃, v₃, hp₃, hn₃, hv₃⟩ := exists_event Notice.told_linenDeleted
  obtain ⟨e₄, v₄, hp₄, hn₄, hv₄⟩ := exists_event Notice.told_linenBack
  have hnotices : [e₁, e₂, e₃, e₄].map Event.notice = linenNotices v₁ v₂ v₃ v₄ := by
    simp only [List.map_cons, List.map_nil, hn₁, hn₂, hn₃, hn₄, linenNotices]
  have hhistory : History linen ([e₁, e₂, e₃, e₄].map Event.notice) :=
    hnotices ▸ linenNotices_history hv₁ hv₂ hv₃ hv₄
  obtain ⟨hresults, haligned, -⟩ :=
    feed_aligned .silent hhistory (linenFeed_follows hp₁ hp₂ hp₃ hp₄ hnotices)
  have hlength : linenFeed.length = 7 := by rfl
  rw [hlength] at hresults
  rw [hnotices] at haligned
  obtain ⟨final, hfinal⟩ : ∃ p, handleAll .silent linenFeed .empty = p := ⟨_, rfl⟩
  rw [hfinal] at hresults haligned ⊢
  refine ⟨final.2, Prod.ext hresults rfl, ?_, haligned.trail⟩
  have hrow := haligned.row
  generalize final.2.table.find? linen = r at hrow
  cases hrow with
  | nothing h => cases h
  | row hx hd =>
    cases hx
    cases hd
    rfl

end FabricRegistry.Traffic
