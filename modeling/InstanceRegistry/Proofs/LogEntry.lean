import InstanceRegistry.Proofs.Logging

/-!
# What the entries of a log say

A log entry names its event by the fields for the event, the type and the name of the slot, and for
a failure by the message of the fault. These fields are laid over those of the logger, so no base
field ever stands in their place. But the fields that a fault brings to the log by itself are laid
over all of them. So an entry identifies its event, except under the keys that the fault of a
failure takes for itself.

## Implementation notes

An entry has four layers of fields, each of which is described by what it has under a key. Of the
layers that have the key the uppermost counts.
-/

namespace InstanceRegistry

variable {σ : Type}

namespace Keyed

variable {α β : Type} [DecidableEq α]

/-- In a table without a key twice it does not matter from which end a key is looked for. -/
theorem find_reverse {m : Keyed α β} (h : m.keys.Nodup) (k : α) :
    find k m.entries.reverse = m.get? k := by
  obtain ⟨entries⟩ := m
  change find k entries.reverse = find k entries
  induction entries with
  | nil => rfl
  | cons entry rest ih =>
      obtain ⟨hnot, hrest⟩ := List.nodup_cons.mp h
      rw [List.reverse_cons, find_append, ih hrest]
      by_cases hk : entry.1 = k
      · have hnone : find k rest = none := (get?_eq_none_iff ⟨rest⟩ k).mpr (hk ▸ hnot)
        simp [find, hk, hnone]
      · simp [find, hk]

theorem nodup_keys_merge {m : Keyed α β} (h : m.keys.Nodup) (n : Keyed α β) :
    (m.merge n).keys.Nodup := by
  obtain ⟨entries⟩ := n
  change (entries.foldl (fun acc entry => acc.insert entry.1 entry.2) m).keys.Nodup
  induction entries generalizing m with
  | nil => exact h
  | cons entry rest ih => exact ih (nodup_keys_insert h entry.1 entry.2)

end Keyed

/-! ### The layers of an entry -/

namespace Notice

/-- What a log says of a notice under a key: its event, its type and its name. -/
def mark? (n : Notice) (key : String) : Option String :=
  if key = "event" then some n.event.text
  else if key = "type" then n.type.map Ty.text
  else if key = "name" then some n.name
  else none

/-- What a log says of the fault of a failure under a key: its message. -/
def message? (n : Notice) (key : String) : Option String :=
  if n.event = .failure ∧ key = "error" then n.fault.bind fun e => e.message.map Text.shown else none

/-- What the fault of a failure brings to a log under a key; of several fields the last counts. -/
def brought? (n : Notice) (key : String) : Option String :=
  if n.event = .failure then
    (n.fault.bind Fault.fields).bind fun own => Keyed.find key own.entries.reverse
  else none

theorem message?_of_ne (n : Notice) {key : String} (h : key ≠ "error") : n.message? key = none :=
  if_neg fun hkey => h hkey.2

theorem message?_error {n : Notice} {e : Fault} (hfail : n.event = .failure)
    (he : n.fault = some e) : n.message? "error" = e.message.map Text.shown := by
  rw [message?, if_pos ⟨hfail, rfl⟩, he]
  rfl

end Notice

namespace Fields

theorem find_ofNotice {n : Notice} {type : Ty} (ht : n.type = some type) (key : String) :
    Keyed.find key (ofNotice type n).entries.reverse = n.mark? key := by
  change Keyed.find key [("name", n.name), ("type", type.text), ("event", n.event.text)] = n.mark? key
  by_cases hevent : key = "event"
  · subst hevent
    rfl
  · by_cases htype : key = "type"
    · subst htype
      rw [Notice.mark?, ht]
      rfl
    · by_cases hname : key = "name"
      · subst hname
        rfl
      · simp [Keyed.find, Notice.mark?, eq_comm, hevent, htype, hname]

/-- The fields of a fault are its own, and below them its message. -/
theorem find_ofFault {e : Fault} {own : Fields} (h : ofFault e = .ok own) (key : String) :
    Keyed.find key own.entries.reverse =
      (e.fields.bind fun brought => Keyed.find key brought.entries.reverse).or
        (if key = "error" then e.message.map Text.shown else none) := by
  rw [ofFault] at h
  split at h
  · rename_i message brought hm hb
    obtain rfl := Except.ok.inj h
    rw [Keyed.find_reverse (Keyed.nodup_keys_merge (by simp [Keyed.keys]) _), Keyed.get?_merge]
    by_cases hkey : key = "error"
    · simp [Keyed.get?, Keyed.find, hkey, hm, hb]
    · simp [Keyed.get?, Keyed.find, hkey, Ne.symm hkey, hb]
  · cases h

end Fields

namespace Logger

variable {l : Logger} {n : Notice} {entry : LogEntry}

/-- The entry of a notice has the severity and the message of its event, and under each key what the
fault brought, or the message of the fault, or what is said of the notice, or the base field. -/
theorem compose_eq_ok (h : l.compose n = .ok entry) :
    entry.level = n.event.level ∧ entry.message = n.event.message ∧
      ∀ key, entry.fields.get? key =
        (n.brought? key).or ((n.message? key).or ((n.mark? key).or (l.fields.get? key))) := by
  obtain ⟨event, type, name, fault⟩ := n
  cases type with
  | none => cases h
  | some type =>
      have hmarks key := Fields.find_ofNotice (n := ⟨event, some type, name, fault⟩) rfl key
      cases fault with
      | none =>
          obtain rfl := Except.ok.inj h
          refine ⟨rfl, rfl, fun key => ?_⟩
          simp [Notice.brought?, Notice.message?, hmarks]
      | some e =>
          by_cases hevent : event = .failure
          · subst hevent
            cases hown : Fields.ofFault e with
            | error p => simp [compose, hown, Except.map] at h
            | ok own =>
                simp only [compose, if_true, hown, Except.map] at h
                obtain rfl := Except.ok.inj h
                refine ⟨rfl, rfl, fun key => ?_⟩
                simp [Notice.brought?, Notice.message?, Fields.find_ofFault hown, hmarks,
                  Option.or_assoc]
          · simp only [compose, hevent, if_false] at h
            obtain rfl := Except.ok.inj h
            refine ⟨rfl, rfl, fun key => ?_⟩
            simp [Notice.brought?, Notice.message?, hmarks, hevent]

theorem isLoggable_of_compose (h : l.compose n = .ok entry) : n.isLoggable = true := by
  cases hn : n.isLoggable with
  | true => rfl
  | false => cases h.symm.trans (l.compose_of_not_isLoggable hn)

/-- An entry that reaches the handler is that of the notice. -/
theorem compose_of_log (h : l.log n = .ok (some entry)) : l.compose n = .ok entry := by
  rw [log] at h
  cases hc : l.compose n with
  | error p =>
      rw [hc] at h
      cases h
  | ok entry' =>
      rw [hc] at h
      have hsome : (if l.level ≤ entry'.level then some entry' else none) = some entry :=
        Except.ok.inj h
      split at hsome
      · exact congrArg Except.ok (Option.some.inj hsome)
      · cases hsome

/-- What can be logged reaches the handler if it is as severe as the threshold. -/
theorem log_of_isLoggable (h : n.isLoggable = true) (hlevel : l.level ≤ n.event.level) :
    ∃ entry, l.log n = .ok (some entry) := by
  obtain ⟨entry, hentry⟩ := l.compose_of_isLoggable h
  obtain ⟨hl, -, -⟩ := compose_eq_ok hentry
  rw [← hl] at hlevel
  exact ⟨entry, by rw [log, hentry, Except.map, if_pos hlevel]⟩

end Logger

/-- What is told can be logged just if the fault of a failure is legible. -/
theorem Told.isLoggable_notice (x : Told) :
    x.notice.isLoggable = true ↔
      ∀ e, x.event = .failure → x.fault = some e → e.isLegible = true := by
  obtain ⟨a, o, event, fault⟩ := x
  cases fault with
  | none => by_cases hfail : event = .failure <;>
      simp [Notice.isLoggable, Told.notice, Slot.notice, hfail]
  | some e => by_cases hfail : event = .failure <;>
      simp [Notice.isLoggable, Told.notice, Slot.notice, hfail]

namespace World

variable {P : Program σ} {w₀ w : World σ} {h : List (Move σ)} {m : Move σ} {x : Told}

/-- Whoever is told of a failure is told its fault. -/
theorem Valid.fault_of_told? {t : ThreadId} (hw : w.Valid) (hx : w.told? t = some x)
    (hfail : x.event = .failure) : ∃ e, x.fault = some e := by
  obtain ⟨next, S, reg, ht, -, -⟩ := announce_of_told? hx
  obtain ⟨a, o, event, fault⟩ := x
  obtain rfl : event = .failure := hfail
  cases (hw.proper t _ ht).announced with
  | failure => exact ⟨_, rfl⟩

/-- Log entries identify their event, except where a fault takes a key for itself. Whenever a
request tells something to a log observer, the observer runs next, and what it was told reaches the
handler if the fault of a failure is legible and the event is as severe as the threshold. The entry
has the event, the type and the name under their keys, and for a failure the message of the fault,
whatever base fields the logger has. Only a field that the fault of a failure brings to the log
under one of these keys stands there instead. -/
theorem Run.log_entries_identify (run : Run P w₀ h w) (fresh : w₀.Fresh) (hm : m ∈ h)
    (hx : m.told? = some x) {l : Logger} {handle : LogEntry → ThreadId → σ → σ}
    (hl : P.observer x.observer = l.observe handle) :
    (∃ S, m.after.threads[m.thread]? = some ⟨.running (l.observe handle x.notice), S⟩) ∧
    ((∀ e, x.event = .failure → x.fault = some e → e.isLegible = true) →
      l.level ≤ x.event.level → ∃ entry, l.log x.notice = .ok (some entry)) ∧
    ∀ entry, l.log x.notice = .ok (some entry) →
      (x.notice.brought? "event" = none → entry.fields.get? "event" = some x.event.text) ∧
      (x.notice.brought? "type" = none →
        entry.fields.get? "type" = some x.accessor.slot.type.text) ∧
      (x.notice.brought? "name" = none → entry.fields.get? "name" = some x.accessor.slot.name) ∧
      (x.event = .failure → ∃ e message, x.fault = some e ∧ e.message = some message ∧
        (x.notice.brought? "error" = none →
          entry.fields.get? "error" = some message.shown)) ∧
      ∀ key text, x.notice.brought? key = some text → entry.fields.get? key = some text := by
  obtain ⟨h₁, h₂, -, run₁, hs, -⟩ := run.split hm
  have hv := run₁.valid fresh
  obtain ⟨next, S, reg, ht, -, -⟩ := announce_of_told? hx
  have hrun := observes_of_told? hs hx ht
  rw [hl] at hrun
  refine ⟨⟨_, hrun⟩, fun hlegible hlevel => ?_, fun entry hentry => ?_⟩
  · exact Logger.log_of_isLoggable (x.isLoggable_notice.mpr hlegible) hlevel
  · have hcompose := Logger.compose_of_log hentry
    obtain ⟨-, -, hfields⟩ := Logger.compose_eq_ok hcompose
    refine ⟨fun hown => ?_, fun hown => ?_, fun hown => ?_, fun hfail => ?_, fun key text hown => ?_⟩
    · rw [hfields, hown, x.notice.message?_of_ne (by decide)]
      rfl
    · rw [hfields, hown, x.notice.message?_of_ne (by decide)]
      rfl
    · rw [hfields, hown, x.notice.message?_of_ne (by decide)]
      rfl
    · obtain ⟨e, he⟩ := hv.fault_of_told? hx hfail
      have hlegible := x.isLoggable_notice.mp (Logger.isLoggable_of_compose hcompose) e hfail he
      obtain ⟨message, own, hmessage, -⟩ := e.isLegible_iff.mp hlegible
      refine ⟨e, message, he, hmessage, fun hown => ?_⟩
      rw [hfields, hown, Notice.message?_error hfail he, hmessage]
      rfl
    · rw [hfields, hown]
      rfl

end World

namespace Sample

/-- A fault with fields of its own, one of them under the key of the event. -/
def posing : Fault := .fielded (some [("event", "hit"), ("disk", "full")]) "no space"

/-- A logger with base fields under keys of the log observer. -/
def titled : Logger := ⟨.info, ⟨[("type", "base"), ("error", "base")]⟩⟩

/-- All constructors return the fault, and all observers write to a journal. -/
def posed : Program (List LogEntry) where
  maker _ := .done .unit (some posing)
  observer _ := titled.observe fun entry _ journal => journal ++ [entry]
  isOpen _ _ := true

/-- The first thread makes its call. -/
def posedHistory : List (Move (List LogEntry)) := journalled.history posed (List.replicate 20 0)

end Sample

/-- The entry of a failure has the type, the name and the message in spite of the base fields, but
the event that its fault brought. -/
theorem World.Run.log_entries_identify_posing :
    ∃ m x entry, m ∈ Sample.posedHistory ∧ m.told? = some x ∧ x.event = .failure ∧
      Sample.titled.log x.notice = .ok (some entry) ∧
      entry.fields.get? "type" = some "int" ∧ entry.fields.get? "name" = some "" ∧
      entry.fields.get? "error" = some "no space" ∧ entry.fields.get? "event" = some "hit" := by
  obtain ⟨m, hm, hx⟩ : ∃ m ∈ Sample.posedHistory,
      m.told? = some ⟨Sample.accessor, 0, .failure, some Sample.posing⟩ :=
    ⟨_, List.mem_of_getElem? (i := 12) rfl, rfl⟩
  obtain ⟨-, hreaches, hidentify⟩ := Run.log_entries_identify
    (run_of_schedule Sample.posed Sample.journalled (List.replicate 20 0)) Sample.journalled_fresh
    hm hx (l := Sample.titled) rfl
  obtain ⟨entry, hentry⟩ := hreaches (fun e _ he => by cases he; rfl) (by decide)
  obtain ⟨-, htype, hname, herror, hown⟩ := hidentify entry hentry
  obtain ⟨e, message, he, hmessage, herror⟩ := herror rfl
  cases he
  cases hmessage
  exact ⟨m, _, entry, hm, hx, rfl, hentry, htype (by decide), hname (by decide),
    herror (by decide), hown "event" "hit" (by decide)⟩

/-- In the journal the failure stands as a hit, since its fault says so. -/
theorem World.Run.log_entry_mislabelled :
    (Sample.posedHistory.filterMap Move.told?).map Told.event = [.construct, .failure] ∧
    (Sample.journalled.run Sample.posed (List.replicate 20 0)).state.map
      (fun entry => entry.fields.get? "event") = [some "construct", some "hit"] := by
  decide +kernel

end InstanceRegistry
