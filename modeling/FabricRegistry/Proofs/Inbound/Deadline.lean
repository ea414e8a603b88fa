import FabricRegistry.Inbound.Feed
import FabricRegistry.Proofs.Duration.Written
import FabricRegistry.Proofs.Settings.Loading
import Mathlib.Logic.Function.Basic

/-!
Deadlines of the commands that the ERP feed sets off. The timeout is a setting, and any number of
seconds below 2^64 is taken for it; the clock counts its seconds in a signed number of 64 bits. So
the clock holds the deadline as long as the seconds of both come to less than 2^63, and there are
settings with which they do not (`deadline_representable_iff`).
-/

namespace FabricRegistry

variable {n : ℕ} {raw key : String} {lookup : Settings.Lookup} {s : Settings}

/-! ### Settings that are accepted -/

namespace Settings

/-- A variable that is set to another value leaves the others. -/
theorem get_update_of_ne {v : Option String} {k : String} (h : key ≠ k) :
    get (Function.update lookup k v) key = get lookup key := by
  rw [get, get, Function.update_of_ne h]

theorem get_update_self (h : ¬ Text.allBlank raw.toList) :
    get (Function.update lookup key (some raw)) key = some raw := by
  rw [get, Function.update_self, Option.filter_some, if_pos (by simpa using h)]

theorem commandTimeout_lt (h : load lookup = .ok s) :
    s.feed.commandTimeout.seconds < UInt64.size := by
  have htimeout := (load_eq_ok_iff_describes.mp h).commandTimeout
  generalize s.feed.commandTimeout = d at htimeout
  cases htimeout with
  | told _ hraw => exact Duration.lt_of_parse? hraw
  | default => decide

/-- Any number of seconds below 2^64 is taken for the timeout of commands. -/
theorem load_commandTimeout (h : load lookup = .ok s) (hn : n < UInt64.size) :
    load (Function.update lookup "COMMAND_TIMEOUT" (some (String.ofList (Text.digits n)))) =
      .ok { s with feed := { s.feed with commandTimeout := ⟨n⟩ } } := by
  have hblank : ¬ Text.allBlank (String.ofList (Text.digits n)).toList := by
    rw [String.toList_ofList, ← Text.trim_eq_nil_iff,
      Text.trim_digits (List.all_eq_true.mp (Text.all_isDigit_digits n))]
    exact Text.digits_ne_nil n
  simp only [load_eq, bind_eq_ok_iff, pure_eq_ok, Except.ok.injEq] at h ⊢
  obtain ⟨url, hurl, maxConnections, hmax, minConnections, hmin, idleTimeout, hidle, -, -, rfl⟩ := h
  -- what is read of every other variable stays as it is
  have hframe : ∀ key, key ≠ "COMMAND_TIMEOUT" → get (Function.update lookup "COMMAND_TIMEOUT"
      (some (String.ofList (Text.digits n)))) key = get lookup key := fun _ => get_update_of_ne
  refine ⟨url, ?_, maxConnections, ?_, minConnections, ?_, idleTimeout, ?_, ⟨n⟩, ?_, ?_⟩
  · rwa [databaseUrl, hframe _ (by decide)]
  · rwa [countOr, hframe _ (by decide)]
  · rwa [countOr, hframe _ (by decide)]
  · rwa [durationOr, hframe _ (by decide)]
  · simp only [durationOr, get_update_self hblank, Duration.parse?_digits hn]
  · simp (disch := decide) only [assemble, textOr, hframe]

end Settings

/-! ### Deadlines -/

namespace Inbound

/-- the feed of a registry with these settings -/
def Feed.ofSettings (s : Settings) : Feed :=
  { defaults := s.feedDefaults
    timeout := some (1000 * s.feed.commandTimeout.seconds) }

theorem deadline_ofSettings (s : Settings) (now : Instant) (e : Envelope) :
    ((Feed.ofSettings s).invocation now e).deadline =
      some (now.after (1000 * s.feed.commandTimeout.seconds)) := rfl

theorem representable_after_iff {now : Instant} {seconds : ℕ} :
    (now.after (1000 * seconds)).Representable ↔ now / 1000 + seconds < 2 ^ 63 := by
  rw [Instant.Representable, Instant.after, Nat.add_mul_div_left _ _ (by omega)]
  rfl

/-- **The clock holds a deadline whose seconds come to less than 2^63.** They are the seconds of the
clock and of the timeout, and with settings that are accepted the timeout is any number of seconds
below 2^64. -/
theorem deadline_representable_iff (h : Settings.load lookup = .ok s) :
    (∀ (now : Instant) (e : Envelope), ∃ deadline,
      ((Feed.ofSettings s).invocation now e).deadline = some deadline ∧
      (deadline.Representable ↔ now / 1000 + s.feed.commandTimeout.seconds < 2 ^ 63)) ∧
    s.feed.commandTimeout.seconds < 2 ^ 64 ∧
    ∀ n < 2 ^ 64,
      Settings.load
          (Function.update lookup "COMMAND_TIMEOUT" (some (String.ofList (Text.digits n)))) =
        .ok { s with feed := { s.feed with commandTimeout := ⟨n⟩ } } :=
  ⟨fun now e => ⟨_, deadline_ofSettings s now e, representable_after_iff⟩,
    Settings.commandTimeout_lt h, fun _ hn => Settings.load_commandTimeout h hn⟩

/-- the address of the database, and a timeout of commands that is as long as the clock can count -/
def longTimeout (key : String) : Option String :=
  if key = "POSTGRES_URI" then some "postgres://db/fabrics"
  else if key = "COMMAND_TIMEOUT" then some "9223372036854775807"
  else none

theorem deadline_representable_iff_longTimeout : ∃ s, Settings.load longTimeout = .ok s ∧
    s.feed.commandTimeout = ⟨2 ^ 63 - 1⟩ ∧
    (∀ (now : Instant) (e : Envelope), ∃ deadline,
      ((Feed.ofSettings s).invocation now e).deadline = some deadline ∧
      (deadline.Representable ↔ now / 1000 + s.feed.commandTimeout.seconds < 2 ^ 63)) := by
  have hload : Settings.load longTimeout = .ok _ := rfl
  exact ⟨_, hload, rfl, (deadline_representable_iff hload).1⟩

/-- With a second more, no clock holds a deadline. -/
theorem deadline_overflow : ∃ s,
    Settings.load (Function.update longTimeout "COMMAND_TIMEOUT" (some "9223372036854775808")) =
      .ok s ∧
    s.feed.commandTimeout = ⟨2 ^ 63⟩ ∧
    ∀ (now : Instant) (e : Envelope), ∃ deadline,
      ((Feed.ofSettings s).invocation now e).deadline = some deadline ∧
      ¬ deadline.Representable := by
  have htimeout {s : Settings} (h : s.feed.commandTimeout = ⟨2 ^ 63⟩) (now : Instant) :
      ¬ (now.after (1000 * s.feed.commandTimeout.seconds)).Representable := by
    rw [representable_after_iff, h]
    exact Nat.not_lt_of_le (Nat.le_add_left _ _)
  exact ⟨_, rfl, rfl, fun now e => ⟨_, deadline_ofSettings _ now e, htimeout rfl now⟩⟩

end Inbound

end FabricRegistry
