import LatencyTest.Client.Collector
import LatencyTest.Server.Publications

/-!
The batch identity on the wire. The publisher writes the sequence of a batch into
a different field of each event kind, and into the marker; the client reads it
back (`describe`, `markerTimestamp`). The Quote field is the bid size, which the
client accepts only above zero, while the publisher's sequence wraps to zero:
there the identity is lost, and nowhere else.
-/

namespace LatencyTest

/-! ### Reading back a stamped event -/

/-- Whether a stamped event of a kind is read back as what it was stamped with. -/
def ReadsBack (api : DxApi) (kind : RegularKind) (sequence : Int) (event : Event) : Prop :=
  ∃ description, describe api event = some description ∧ description.kind = kind ∧
    description.symbol = event.eventSymbol ∧ description.sequence = some sequence

theorem trunc_intCast (value : Int) : trunc (value : ℚ) = value := by
  simp [trunc]

/-- A bid size is read back as a sequence exactly in the open range of sequences. -/
theorem describe_quote (api : DxApi) (quote : Quote) {sequence : Int}
    (bidSize : quote.bidSize = .finite sequence) :
    ReadsBack api .quote sequence (.quote quote) ↔ 0 < sequence ∧ sequence < api.maxSequence := by
  have range : ((sequence : ℚ) ≤ 0 ∨ (sequence : ℚ) ≥ api.maxSequence ∨
      (trunc sequence : ℚ) ≠ sequence) ↔ ¬ (0 < sequence ∧ sequence < api.maxSequence) := by
    have upper : ((sequence : ℚ) ≥ api.maxSequence) ↔ (api.maxSequence : Int) ≤ sequence := by
      rw [ge_iff_le]
      exact_mod_cast Iff.rfl
    rw [trunc_intCast, upper, Int.cast_nonpos]
    simp only [ne_eq, not_true_eq_false, or_false]
    omega
  simp only [ReadsBack, describe, bidSize]
  by_cases inside : 0 < sequence ∧ sequence < api.maxSequence
  · rw [if_neg (by rw [range]; exact not_not.mpr inside), trunc_intCast]
    exact ⟨fun _ => inside, fun _ => ⟨_, rfl, rfl, rfl, rfl⟩⟩
  · rw [if_pos (range.mpr inside)]
    refine ⟨?_, fun here => absurd here inside⟩
    rintro ⟨_, other, _⟩
    cases other

/-- An event that carries a stamp is read back as that stamp, except a Quote of
sequence zero. -/
theorem readsBack_iff (api : DxApi) {stamp : Stamp} {event : Event}
    (fixed : stampEvent stamp event = event) (lower : 0 ≤ stamp.sequence)
    (upper : stamp.sequence < api.maxSequence) {kind : RegularKind}
    (key : event.recordKey.1 = some kind.toEventKind) :
    ReadsBack api kind stamp.sequence event ↔ kind ≠ .quote ∨ stamp.sequence ≠ 0 := by
  cases event with
  | quote quote =>
      obtain rfl : RegularKind.quote = kind :=
        RegularKind.toEventKind_injective (Option.some.inj key)
      have bidSize : quote.bidSize = .finite stamp.sequence :=
        (congrArg Quote.bidSize (Event.quote.inj fixed)).symm
      rw [describe_quote api quote bidSize]
      simp only [ne_eq, not_true_eq_false, false_or]
      omega
  | trade trade =>
      obtain rfl : RegularKind.trade = kind :=
        RegularKind.toEventKind_injective (Option.some.inj key)
      have sequence := congrArg Trade.sequence (Event.trade.inj fixed)
      exact ⟨fun _ => .inl (by decide), fun _ => ⟨_, rfl, rfl, rfl, congrArg some sequence.symm⟩⟩
  | tradeEth trade =>
      obtain rfl : RegularKind.tradeEth = kind :=
        RegularKind.toEventKind_injective (Option.some.inj key)
      have sequence := congrArg Trade.sequence (Event.tradeEth.inj fixed)
      exact ⟨fun _ => .inl (by decide), fun _ => ⟨_, rfl, rfl, rfl, congrArg some sequence.symm⟩⟩
  | summary summary =>
      obtain rfl : RegularKind.summary = kind :=
        RegularKind.toEventKind_injective (Option.some.inj key)
      have dayId := congrArg Summary.dayId (Event.summary.inj fixed)
      exact ⟨fun _ => .inl (by decide), fun _ => ⟨_, rfl, rfl, rfl, congrArg some dayId.symm⟩⟩
  | timeAndSale event => cases kind <;> simp [Event.recordKey, RegularKind.toEventKind] at key
  | profile symbol => simp [Event.recordKey] at key
  | textMessage message => simp [Event.recordKey] at key

/-- The client reads the publication time from the text the publisher formats. -/
theorem markerTimestamp_formatInt {nowNs : Int} (positive : 0 < nowNs)
    (fits : nowNs ≤ int64Max) :
    markerTimestamp ("LATENCY_BATCH:".toList ++ formatInt nowNs) = some nowNs := by
  have digits : formatInt nowNs = Lib.digits nowNs.natAbs ++ [] := by
    rw [formatInt, if_neg (by omega), List.append_nil]
  have scanned : Lib.fromCharsInt (2 ^ 63 - 1) (formatInt nowNs) = .ok nowNs [] := by
    rw [digits, Lib.fromCharsInt_digits (by simp only [int64Max] at fits; omega) (by simp),
      Int.natAbs_of_nonneg positive.le]
  have isPrefix : markerPrefix.isPrefixOf ("LATENCY_BATCH:".toList ++ formatInt nowNs) = true :=
    List.isPrefixOf_iff_prefix.mpr (List.prefix_append _ _)
  have rest : ("LATENCY_BATCH:".toList ++ formatInt nowNs).drop markerPrefix.length =
      formatInt nowNs := List.drop_left
  unfold markerTimestamp
  rw [if_neg (not_not.mpr isPrefix), rest, scanned]
  simp only [Lib.FromChars.whole]
  rw [if_neg (by omega)]

/-! ### A publication -/

/-- The client assigns every item of a publication to one batch: the market events
carry the sequence of the marker, and the marker carries the publication time. -/
def Identified (api : DxApi) (nowNs : Int) (result : Published) : Prop :=
  ∃ marker, result.events.getLast? = some (.textMessage marker) ∧
    markerTimestamp marker.text = some nowNs ∧
    ∀ event ∈ result.events, ∀ kind : RegularKind, event.recordKey.1 = some kind.toEventKind →
      ReadsBack api kind marker.sequence event

/-- A configured kind has a positive quantity. -/
theorem ActiveTask.WellFormed.item_of_quantity {active : ActiveTask} (h : active.WellFormed)
    {kind : EventKind} (configured : active.pattern.quantity kind ≠ none) :
    ∃ item ∈ active.pattern.items, item.kind = kind ∧ 0 < item.quantity := by
  obtain ⟨quantity, found⟩ := Option.ne_none_iff_exists'.mp configured
  obtain ⟨item, search, -⟩ := Option.map_eq_some_iff.mp found
  have mem := List.mem_of_find?_eq_some search
  exact ⟨item, mem, by simpa using List.find?_some search,
    h.admissible.items.quantity_pos item mem⟩

namespace IsPublication

variable {api : DxApi} {limit : Nat} {subscribed : Finset Text} {nowNs : Int} {active : ActiveTask}
  {choices : Nat → List Choice} {result : Published}
  (h : IsPublication api limit subscribed nowNs active choices result)

include h

theorem marker_sequence : result.active.marker.sequence =
    ((active.tick + 1).toNat % api.maxSequence : Nat) := by
  rw [h.marker]
  rfl

theorem marker_last : result.events.getLast? = some (.textMessage result.active.marker) := by
  obtain ⟨selected, events, -⟩ := h.events
  rw [events]
  exact List.getLast?_concat

/-- Every market event of a publication carries the stamp, so it is read back unless
it is a Quote of sequence zero. -/
theorem readsBack {event : Event} (mem : event ∈ result.events) {kind : RegularKind}
    (key : event.recordKey.1 = some kind.toEventKind) :
    ReadsBack api kind result.active.marker.sequence event ↔
      kind ≠ .quote ∨ (active.tick + 1).toNat % api.maxSequence ≠ 0 := by
  obtain ⟨selected, events, stamped⟩ := h.events
  have residue : ((active.tick + 1).toNat % api.maxSequence : Nat) < api.maxSequence :=
    Nat.mod_lt _ (by have := api.one_lt_maxSequence; omega)
  rw [events, List.mem_append, List.mem_singleton] at mem
  rcases mem with market | rfl
  · obtain ⟨choice, -, fixed, -⟩ := Choice.Published.exists_choice stamped market
    have stamp : (active.nextStamp api nowNs).sequence = result.active.marker.sequence := by
      rw [h.marker_sequence]
      rfl
    have back := readsBack_iff api fixed (by rw [stamp, h.marker_sequence]; omega)
      (by rw [stamp, h.marker_sequence]; exact_mod_cast residue) key
    rw [stamp, h.marker_sequence] at back
    rw [h.marker_sequence, back]
    exact or_congr_right (by omega)
  · simp [Event.recordKey] at key

/-- With Quotes configured, a publication of sequence zero is not identified. -/
theorem not_identified (wellFormed : active.WellFormed)
    (zero : (active.tick + 1).toNat % api.maxSequence = 0)
    (configured : active.pattern.quantity .quote ≠ none) : ¬ Identified api nowNs result := by
  rintro ⟨marker, final, -, all⟩
  cases h.marker_last.symm.trans final
  obtain ⟨item, mem, kind, some⟩ := wellFormed.item_of_quantity configured
  have count := h.count_of_kind wellFormed mem (by rw [kind]; decide)
  obtain ⟨event, found⟩ := List.exists_mem_of_length_pos (count.symm ▸ some)
  obtain ⟨inside, key⟩ := List.mem_filter.mp found
  have key : event.recordKey.1 = .some RegularKind.quote.toEventKind := by
    rw [of_decide_eq_true key, kind]
    rfl
  rcases (h.readsBack inside key).mp (all event inside .quote key) with other | nonzero
  · exact other rfl
  · exact nonzero zero

/-- Without Quotes configured no event of a publication is a Quote. -/
theorem no_quote (wellFormed : active.WellFormed)
    (absent : active.pattern.quantity .quote = none) {event : Event} (mem : event ∈ result.events) :
    event.recordKey.1 ≠ some .quote := by
  intro key
  obtain ⟨selected, events, -⟩ := h.events
  have market : event ∈ result.events.dropLast := by
    rw [events, List.dropLast_concat]
    rw [events, List.mem_append, List.mem_singleton] at mem
    apply mem.resolve_right
    rintro rfl
    simp [Event.recordKey] at key
  obtain ⟨⟨item, configured, kind⟩, -⟩ := h.selected_events wellFormed market
  rw [key, Option.some.injEq] at kind
  rw [TaskPattern.quantity, Option.map_eq_none_iff, List.find?_eq_none] at absent
  exact absent item configured (by rw [← kind]; rfl)

end IsPublication

/-- The items of a publication are decoded to one and the same batch exactly when
the tick is no multiple of the sequence range or no Quotes are configured. -/
theorem identified_iff (api : DxApi) {limit : Nat} {subscribed : Finset Text} {nowNs : Int}
    {active : ActiveTask} {result : Published} (wellFormed : active.WellFormed)
    (positive : 0 < nowNs) (fits : nowNs ≤ int64Max)
    (published : publish api limit subscribed nowNs active = some result) :
    Identified api nowNs result ↔
      (active.tick + 1).toNat % api.maxSequence ≠ 0 ∨ active.pattern.quantity .quote = none := by
  obtain ⟨choices, result', done, h⟩ := publish_ok api limit subscribed nowNs wellFormed
  cases published.symm.trans done
  constructor
  · intro identified
    by_contra lost
    rw [not_or, not_not] at lost
    exact h.not_identified wellFormed lost.1 lost.2 identified
  · intro condition
    have text : markerTimestamp result.active.marker.text = some nowNs := by
      rw [h.marker]
      exact markerTimestamp_formatInt positive fits
    refine ⟨result.active.marker, h.marker_last, text, ?_⟩
    intro event mem kind key
    refine (h.readsBack mem key).mpr (condition.symm.imp_left fun absent => ?_)
    rintro rfl
    exact h.no_quote wellFormed absent mem key

/-- The task of one Quote a publication passes its checks. -/
theorem quotePending_wellFormed :
    PendingTask.WellFormed ⟨"SUB:Q1".toList, { items := [⟨.quote, 1⟩] }, 1, [], []⟩ := by
  have parsed : parseTask "SUB:Q1".toList = .ok { items := [⟨.quote, 1⟩] } := by decide +kernel
  have resolved : resolveActiveSymbolCount none { items := [⟨.quote, 1⟩] } = .ok 1 := rfl
  exact pendingTask_wellFormed parsed resolved (by decide)

/-- Publication number 4194303, the first whose sequence wraps to zero, is not
identified: its Quote has bid size zero. -/
theorem identity_lost_at_wrap :
    ∃ active result,
      publishAll .release 1000
        (startTask ⟨"SUB:Q1".toList, { items := [⟨.quote, 1⟩] }, 1, [], []⟩)
        (List.replicate 4194302 (∅, 1000000)) = some active ∧
      publish .release 1000 ∅ 1000000 active = some result ∧
      ¬ Identified .release 1000000 result := by
  have started := startTask_wellFormed quotePending_wellFormed
  obtain ⟨active, reached, wellFormed, -, pattern, -⟩ := publishAll_ok .release 1000
    started (List.replicate 4194302 (∅, 1000000))
  obtain ⟨choices, result, published, h⟩ := publish_ok .release 1000 ∅ 1000000 wellFormed
  refine ⟨active, result, reached, published, h.not_identified wellFormed ?_ ?_⟩
  · rw [publishAll_tick started reached, List.length_replicate]
    rfl
  · rw [pattern]
    decide

/-- The first publication is identified. -/
theorem identified_iff_first :
    ∃ result, publish .release 1000 ∅ 1000000
        (startTask ⟨"SUB:Q1".toList, { items := [⟨.quote, 1⟩] }, 1, [], []⟩) = some result ∧
      Identified .release 1000000 result := by
  have started := startTask_wellFormed quotePending_wellFormed
  obtain ⟨choices, result, published, -⟩ := publish_ok .release 1000 ∅ 1000000 started
  exact ⟨result, published, (identified_iff .release started (by decide) (by decide)
    published).mpr (.inl (by decide))⟩

end LatencyTest
