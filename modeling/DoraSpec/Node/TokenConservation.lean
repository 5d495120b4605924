import Mathlib.Algebra.Order.Ring.Nat
import DoraSpec.Node.EventThread

/-!
# Tokens that are given back once

The thread of the event stream moves each token from the batch to the pending ones, from there to
those that are to be reported, and from there to the daemon. It loses the tokens of events that it
does not forward, and gives up those of events that the user holds by the age of the event.
-/

namespace DoraSpec.Node.EventThread
open Base State List Option

/-- Each token that was fetched is reported at most once, after its event was dropped. When the thread
has ended, those that are not reported belong to events that the user held for more than a second
after the end of the stream. -/
structure Conserved (s : State) : Prop where
  once : s.reported.Nodup
  genuine : ∀ c ∈ s.reported, c ∈ s.fetched ∧ (s.dropped c.event).isSome
  complete : s.phase = .ended → ∀ c ∈ s.fetched, c ∉ s.reported →
    ∀ t ∈ s.endedAt, ∀ d ∈ s.dropped c.event, t + 1000 < d

/-- No event with a token comes after the channel to the user is closed, not even in the batch in
which that is noticed. The connection works as long as tokens are to be reported. When a second
since the arrival of an event is over, so is one since the end of the stream. -/
def Careful (s : State) : Input → Prop
  | .advance reply =>
    match s.phase with
    | .requesting => reply = .broken → s.dropTokens = []
    | .forwarding ((event, number) :: events) =>
      (s.tx = false → dropToken event = none) ∧
        (s.tx = true → s.receiver = false → copies ((event, number) :: events) = [])
    | .reporting =>
      s.dropTokens ≠ [] → reply ≠ .empty → reply ≠ .broken ∧ s.pendingDropTokens = []
    | .waiting (p :: _) _ =>
      s.dropped p.copy.event = none → p.since + 900 < s.now → ∀ t ∈ s.endedAt, t + 900 < s.now
    | _ => True
  | _ => True

/-! ## Where the tokens are -/

def Phase.copies : Phase → List Copy
  | checking todo still | waiting todo still => todo.map Pending.copy ++ still.map Pending.copy
  | forwarding events => EventThread.copies events
  | _ => []

/-- Tokens that the thread has. -/
def State.inHand (s : State) : List Copy :=
  s.phase.copies ++ s.pendingDropTokens.map Pending.copy ++ s.dropTokens

/-- The thread is in its main loop. -/
def Phase.inLoop : Phase → Bool
  | checking .. | requesting | forwarding _ => true
  | _ => false

/-- The pending tokens are being looked at, and are not in their list. -/
def Phase.drains : Phase → Bool
  | checking .. | waiting .. => true
  | _ => false

private structure Placed (s : State) : Prop where
  ending : s.phase.inLoop = s.endedAt.isNone
  finished : s.phase = .ended → s.inHand = []
  drained : s.phase.drains = true → s.pendingDropTokens = []

private structure Inv (given : List Copy) (s : State) : Prop where
  balance : ∀ c, s.reported.count c + s.inHand.count c + given.count c = s.fetched.count c
  nodup : s.fetched.Nodup
  numbered : ∀ c ∈ s.fetched, c.event < s.nextEvent
  gone : ∀ c ∈ s.reported ++ s.dropTokens, (s.dropped c.event).isSome
  late : ∀ c ∈ given, ∃ t ∈ s.endedAt, t + 1000 < s.now ∧ ∀ d ∈ s.dropped c.event, t + 1000 < d
  placed : Placed s

section

variable {s : State} {given : List Copy} {p : Pending} {todo still : List Pending}

private theorem sublist_copies (events : List (NodeEvent × Nat)) :
    ((copies events).map Copy.event).Sublist (events.map Prod.snd) := by
  induction events with
  | nil => exact .slnil
  | cons e events ih =>
    cases he : dropToken e.1 with
    | none =>
      rw [copies, filterMap_cons_none (by simp [he])]
      exact ih.cons _
    | some token =>
      rw [copies, filterMap_cons_some (b := ⟨e.2, token⟩) (by simp [he])]
      exact ih.cons_cons _

private theorem nodup_copies (events : List NodeEvent) (n : Nat) :
    (copies (events.zipIdx n)).Nodup := by
  refine List.Nodup.of_map Copy.event ((sublist_copies _).nodup ?_)
  rw [zipIdx_map_snd]
  exact nodup_range'

private theorem copies_cons (event : NodeEvent) (number : Nat) (events : List (NodeEvent × Nat)) :
    copies ((event, number) :: events) =
      ((dropToken event).map (⟨number, ·⟩)).toList ++ copies events := by
  cases he : dropToken event <;> simp [copies, he]

section Kept

variable (h : Inv given s) {reply : Reply}
include h

private theorem Inv.conserved : Conserved s where
  once := by
    refine nodup_iff_count_le_one.mpr fun c => ?_
    have hone := nodup_iff_count_le_one.mp h.nodup c
    have hbalance := h.balance c
    omega
  genuine c hc := by
    refine ⟨?_, h.gone c (mem_append_left _ hc)⟩
    have hpos := count_pos_iff.mpr hc
    have hbalance := h.balance c
    exact count_pos_iff.mp (by omega)
  complete hended c hc hnot t ht d hd := by
    have hpos := count_pos_iff.mpr hc
    have hbalance := h.balance c
    rw [count_eq_zero_of_not_mem hnot, h.placed.finished hended, count_nil] at hbalance
    obtain ⟨t', ht', -, hlate⟩ := h.late c (count_pos_iff.mp (by omega))
    cases ht.symm.trans ht'
    exact hlate d hd

private theorem Inv.moved {t : State}
    (hfetched : t.fetched = s.fetched ∧ t.nextEvent = s.nextEvent) (hdropped : t.dropped = s.dropped)
    (hnow : s.now ≤ t.now) (hend : t.endedAt = s.endedAt ∨ s.endedAt = none)
    (hmove : ∀ c, t.reported.count c + t.inHand.count c = s.reported.count c + s.inHand.count c)
    (hgone : ∀ c ∈ t.reported ++ t.dropTokens,
      c ∈ s.reported ++ s.dropTokens ∨ (s.dropped c.event).isSome)
    (hplaced : Placed t) : Inv given t where
  balance c := by rw [hmove, hfetched.1, h.balance]
  nodup := hfetched.1 ▸ h.nodup
  numbered := by
    rw [hfetched.1, hfetched.2]
    exact h.numbered
  gone c hc := by
    rw [hdropped]
    exact (hgone c hc).elim (h.gone c) id
  late c hc := by
    obtain ⟨t', ht', hnow', hlate⟩ := h.late c hc
    rw [hdropped]
    rcases hend with hend | hend
    · exact ⟨t', hend ▸ ht', by omega, hlate⟩
    · rw [hend] at ht'
      cases ht'
  placed := hplaced

/-! ## The main loop -/

private theorem inv_checkOne (hphase : s.phase = .checking (p :: todo) still) :
    Inv given (s.checkOne p todo still) := by
  have hending := h.placed.ending
  have hdrained := h.placed.drained
  rw [hphase] at hending hdrained
  unfold checkOne
  split
  · next hdropped =>
    refine h.moved ⟨rfl, rfl⟩ rfl le_rfl (.inl rfl) (fun c => ?_) (fun c hc => ?_)
      ⟨hending, nofun, hdrained⟩
    · simp only [inHand, hphase, Phase.copies, count_append, map_cons,
        count_cons, count_nil]
      omega
    · rw [← append_assoc, mem_append] at hc
      refine hc.imp_right fun hc => ?_
      rwa [mem_singleton.mp hc]
  · refine h.moved ⟨rfl, rfl⟩ rfl le_rfl (.inl rfl) (fun c => ?_) (fun c hc => .inl hc)
      ⟨hending, nofun, hdrained⟩
    simp only [inHand, hphase, Phase.copies, count_append, map_cons, map_append,
      map_nil, count_cons, count_nil]
    omega

private theorem inv_report : Inv given s.report := by
  refine h.moved ⟨rfl, rfl⟩ rfl le_rfl (.inl rfl) (fun c => ?_) (fun c hc => .inl ?_)
    ⟨h.placed.ending, fun hended => ?_, h.placed.drained⟩
  · simp only [report, inHand, count_append, count_nil]
    omega
  · simpa [report] using hc
  · have hempty := h.placed.finished hended
    simp only [report, inHand, append_eq_nil_iff] at hempty ⊢
    exact ⟨hempty.1, trivial⟩

private theorem inv_leave (hphase : s.phase.inLoop = true)
    (hnone : s.phase.copies = []) : Inv given s.leave := by
  have hrunning : s.endedAt = none := by simpa [hphase] using h.placed.ending
  refine h.moved ⟨rfl, rfl⟩ rfl le_rfl (.inr hrunning) (fun c => ?_) (fun c hc => .inl hc)
    ⟨rfl, nofun, nofun⟩
  simp only [leave, inHand, hnone]
  rfl

private theorem inv_check (hphase : s.phase.inLoop = true)
    (hnone : s.phase.copies = []) : Inv given s.check := by
  refine h.moved ⟨rfl, rfl⟩ rfl le_rfl (.inl rfl) (fun c => ?_) (fun c hc => .inl hc)
    ⟨hphase.symm.trans h.placed.ending, nofun, fun _ => rfl⟩
  simp only [check, inHand, hnone]
  simp [Phase.copies]

private theorem Inv.later (time : Nat) : Inv given { s with now := s.now + time } :=
  h.moved ⟨rfl, rfl⟩ rfl (Nat.le_add_right ..) (.inl rfl) (fun _ => rfl) (fun _ hc => .inl hc)
    ⟨h.placed.ending, h.placed.finished, h.placed.drained⟩

private theorem inv_fetch (hphase : s.phase = .requesting) (events : List NodeEvent) :
    Inv given { s with
      phase := .forwarding (events.zipIdx s.nextEvent)
      nextEvent := s.nextEvent + events.length
      fetched := s.fetched ++ copies (events.zipIdx s.nextEvent) } := by
  have hcopies : ∀ c ∈ copies (events.zipIdx s.nextEvent),
      s.nextEvent ≤ c.event ∧ c.event < s.nextEvent + events.length := by
    intro c hc
    obtain ⟨⟨event, number⟩, hmem, hc⟩ := mem_filterMap.mp hc
    obtain ⟨token, -, rfl⟩ := map_eq_some_iff.mp hc
    exact ⟨le_snd_of_mem_zipIdx hmem, snd_lt_add_of_mem_zipIdx hmem⟩
  refine ⟨fun c => ?_, ?_, fun c hc => ?_, h.gone, h.late,
    ⟨(hphase ▸ h.placed.ending :), nofun, nofun⟩⟩
  · have := h.balance c
    simp only [inHand, hphase, Phase.copies, count_append, count_nil] at this ⊢
    omega
  · refine h.nodup.append ?_ fun c hc hc' => ?_
    · exact nodup_copies events s.nextEvent
    · have := h.numbered c hc
      have := hcopies c hc'
      omega
  · rcases mem_append.mp hc with hc | hc
    · have := h.numbered c hc
      simp only
      omega
    · exact (hcopies c hc).2

private theorem inv_request (hphase : s.phase = .requesting) (hc : Careful s (.advance reply)) :
    Inv given (s.request reply) := by
  have hloop : s.phase.inLoop = true := by rw [hphase]; rfl
  have hnone : s.phase.copies = [] := by rw [hphase]; rfl
  have hreport := inv_report h
  unfold request
  split
  · exact inv_leave hreport hloop hnone
  · next events _ => exact inv_fetch hreport hphase events
  · have hempty : s.dropTokens = [] := by simpa [Careful, hphase] using hc
    refine inv_leave (h.moved ⟨rfl, rfl⟩ rfl le_rfl (.inl rfl) (fun c => ?_) (fun c hc => .inl ?_)
      ⟨h.placed.ending, fun hended => ?_, h.placed.drained⟩) hloop hnone
    · simp [inHand, hempty]
    · simpa [hempty] using hc
    · cases hphase.symm.trans hended
  all_goals exact inv_check (hreport.later 100) hloop hnone

private theorem inv_discard (events : List Nat) : Inv given (s.discard events) where
  balance := h.balance
  nodup := h.nodup
  numbered := h.numbered
  gone c hc := by
    have hsome := h.gone c hc
    simp only [State.discard]
    cases hd : s.dropped c.event with
    | none => simp [hd] at hsome
    | some d => rfl
  late c hc := by
    obtain ⟨t, ht, hnow, hlate⟩ := h.late c hc
    refine ⟨t, ht, hnow, fun d hd => ?_⟩
    simp only [State.discard] at hd
    cases hd' : s.dropped c.event with
    | some d' =>
      rw [hd'] at hd
      exact hlate d (hd' ▸ hd)
    | none =>
      simp only [hd', orElse_none, mem_def, ite_none_right_eq_some,
        some.injEq] at hd
      exact hd.2 ▸ hnow
  placed := ⟨h.placed.ending, h.placed.finished, h.placed.drained⟩

private theorem inv_forward {event : NodeEvent} {number : Nat} {events : List (NodeEvent × Nat)}
    (hphase : s.phase = .forwarding ((event, number) :: events)) (hc : Careful s (.advance reply)) :
    Inv given (s.forward event number events) := by
  have hending := h.placed.ending
  rw [hphase] at hending
  simp only [Careful, hphase] at hc
  unfold forward
  dsimp only
  split
  · next htx =>
    split
    · refine h.moved ⟨rfl, rfl⟩ rfl le_rfl (.inl rfl) (fun c => ?_) (fun c hc => .inl hc)
        ⟨hending, nofun, nofun⟩
      simp only [inHand, hphase, Phase.copies, copies_cons, count_append, map_append]
      cases dropToken event with
      | none => simp
      | some token =>
        simp only [map_some, toList_some, map_cons, map_nil]
        omega
    · next hreceiver =>
      have hnone : s.phase.copies = [] := by
        rw [hphase]
        exact hc.2 htx (by simpa using hreceiver)
      have hinv : ∀ closeTx, Inv given { s with closeTx } := fun _ =>
        h.moved ⟨rfl, rfl⟩ rfl le_rfl (.inl rfl) (fun _ => rfl) (fun _ hc => .inl hc)
          ⟨h.placed.ending, h.placed.finished, h.placed.drained⟩
      exact inv_leave (inv_discard (hinv _) _) (congrArg Phase.inLoop hphase) hnone
  · next htx =>
    have hnone := hc.1 (by simpa using htx)
    have hinv : ∀ closeTx, Inv given { s with phase := .forwarding events, closeTx } := fun _ => by
      refine h.moved ⟨rfl, rfl⟩ rfl le_rfl (.inl rfl) (fun c => ?_) (fun c hc => .inl hc)
        ⟨hending, nofun, nofun⟩
      simp [inHand, hphase, Phase.copies, copies_cons, hnone]
    exact inv_discard (hinv _) [number]

/-! ## After the main loop -/

private theorem inv_reportRemaining (hphase : s.phase = .reporting)
    (hc : Careful s (.advance reply)) :
    Inv given (s.reportRemaining reply) := by
  have hending := h.placed.ending
  rw [hphase] at hending
  simp only [Careful, hphase] at hc
  have hwait : ∀ t : State, Inv given t → t.phase = .reporting →
      Inv given { t with phase := .waiting t.pendingDropTokens [], pendingDropTokens := [] } := by
    intro t ht htphase
    refine ht.moved ⟨rfl, rfl⟩ rfl le_rfl (.inl rfl) (fun c => ?_) (fun c hc => .inl hc)
      ⟨(htphase ▸ ht.placed.ending :), nofun, fun _ => rfl⟩
    simp [inHand, htphase, Phase.copies]
  have hend : ∀ t : State, Inv given t → t.phase = .reporting → t.dropTokens = [] →
      t.pendingDropTokens = [] → Inv given { t with phase := .ended, pendingDropTokens := [] } := by
    intro t ht htphase hdrop hpending
    refine ht.moved ⟨rfl, rfl⟩ rfl le_rfl (.inl rfl) (fun c => ?_) (fun c hc => .inl hc)
      ⟨(htphase ▸ ht.placed.ending :), fun _ => ?_, nofun⟩
    · simp [inHand, htphase, hpending, Phase.copies]
    · simp [inHand, hdrop, Phase.copies]
  unfold reportRemaining
  split
  · next hempty =>
    obtain ⟨hpending, hdrop⟩ : s.pendingDropTokens = [] ∧ s.dropTokens = [] := by
      simpa using hempty
    have := hend s h hphase hdrop hpending
    rwa [← hpending] at this
  · split
    · exact hwait s h hphase
    · next hdrop =>
      have hne : s.dropTokens ≠ [] := by simpa using hdrop
      split
      · exact hwait s.report (inv_report h) hphase
      · exact absurd rfl (hc hne nofun).1
      · next hempty hbroken =>
        exact hend s.report (inv_report h) hphase rfl (hc hne hempty).2

private theorem inv_waitOne (hphase : s.phase = .waiting (p :: todo) still)
    (hc : Careful s (.advance reply)) :
    ∃ given', Inv given' (s.waitOne p todo still) := by
  have hending := h.placed.ending
  have hdrained := h.placed.drained
  rw [hphase] at hending hdrained
  simp only [Careful, hphase] at hc
  unfold waitOne
  split
  · next hdropped =>
    refine ⟨given, h.moved ⟨rfl, rfl⟩ rfl le_rfl (.inl rfl) (fun c => ?_) (fun c hc => ?_)
      ⟨hending, nofun, hdrained⟩⟩
    · simp only [inHand, hphase, Phase.copies, count_append, map_cons,
        count_cons, count_nil]
      omega
    · rw [← append_assoc, mem_append] at hc
      refine hc.imp_right fun hc => ?_
      rwa [mem_singleton.mp hc]
  · next hdropped =>
    have hheld : s.dropped p.copy.event = none := by simpa using hdropped
    dsimp only
    split
    · next hage =>
      refine ⟨p.copy :: given, fun c => ?_, h.nodup, h.numbered, h.gone, fun c hmem => ?_,
        ⟨hending, nofun, hdrained⟩⟩
      · have := h.balance c
        simp only [inHand, hphase, Phase.copies, count_append, map_cons,
          count_cons] at this ⊢
        omega
      · rcases mem_cons.mp hmem with rfl | hmem
        · cases hend : s.endedAt with
          | none => simp [hend, Phase.inLoop] at hending
          | some t =>
            have hlate := hc hheld (by omega) t hend
            exact ⟨t, rfl, show t + 1000 < s.now + 100 by omega, by simp [hheld]⟩
        · obtain ⟨t, ht, hnow, hlate⟩ := h.late c hmem
          exact ⟨t, ht, show t + 1000 < s.now + 100 by omega, hlate⟩
    · refine ⟨given, h.moved ⟨rfl, rfl⟩ rfl (Nat.le_add_right ..) (.inl rfl) (fun c => ?_)
        (fun c hc => .inl hc) ⟨hending, nofun, hdrained⟩⟩
      simp only [inHand, hphase, Phase.copies, count_append, map_cons,
        map_append, map_nil, count_cons, count_nil]
      omega

private theorem inv_restore {phase : Phase} {pending : List Pending}
    (hphase : s.phase.copies = pending.map Pending.copy) (hdrains : s.phase.drains = true)
    (hloop : phase.inLoop = s.phase.inLoop) (hcopies : phase.copies = [])
    (hended : phase ≠ .ended) (hdrain : phase.drains = false) :
    Inv given { s with phase, pendingDropTokens := pending } := by
  refine h.moved ⟨rfl, rfl⟩ rfl le_rfl (.inl rfl) (fun c => ?_) (fun c hc => .inl hc)
    ⟨hloop.trans h.placed.ending, fun h => absurd h hended, fun h => ?_⟩
  · simp [inHand, hphase, hcopies, h.placed.drained hdrains]
  · cases hdrain.symm.trans h

private theorem inv_advance (hc : Careful s (.advance reply)) :
    ∃ given', Inv given' (s.advance reply) := by
  unfold advance
  split
  · next hphase => exact ⟨given, inv_checkOne h hphase⟩
  · next still hphase =>
    exact ⟨given, inv_restore h (by rw [hphase]; rfl) (by rw [hphase]; rfl) (by rw [hphase]; rfl) rfl
      nofun rfl⟩
  · next hphase => exact ⟨given, inv_request h hphase hc⟩
  · next hphase => exact ⟨given, inv_forward h hphase hc⟩
  · next hphase => exact ⟨given, inv_check h (congrArg Phase.inLoop hphase) (by rw [hphase]; rfl)⟩
  · next hphase => exact ⟨given, inv_reportRemaining h hphase hc⟩
  · next hphase => exact inv_waitOne h hphase hc
  · next still hphase =>
    exact ⟨given, inv_restore h (by rw [hphase]; rfl) (by rw [hphase]; rfl) (by rw [hphase]; rfl) rfl
      nofun rfl⟩
  · exact ⟨given, h⟩

private theorem inv_step {i : Input} (hc : Careful s i) : ∃ given', Inv given' (step s i).1 := by
  cases i with
  | advance reply => exact inv_advance h hc
  | pass time => exact ⟨given, h.later time⟩
  | dropEvent event =>
    refine ⟨given, ?_⟩
    simp only [step]
    split
    · exact inv_discard h [event]
    · exact h
  | dropReceiver =>
    exact ⟨given, h.moved ⟨rfl, rfl⟩ rfl le_rfl (.inl rfl) (fun _ => rfl) (fun _ hc => .inl hc)
      ⟨h.placed.ending, h.placed.finished, h.placed.drained⟩⟩

end Kept

/-! ## The thread ends -/

private def patience (now : Nat) (pending : List Pending) : Nat :=
  (pending.map fun p => p.since + 1001 - now).sum

/-- Bound on the steps that are left after the main loop. A round of the loop makes progress by
reporting, by waiting or by giving up. -/
private def State.fuel (s : State) : Nat :=
  let report := if s.dropTokens.isEmpty then 0 else 1
  match s.phase with
  | .reporting =>
    4 * (patience s.now s.pendingDropTokens + 2 * s.pendingDropTokens.length + report) + 1
  | .waiting todo still =>
    4 * (patience s.now (todo ++ still) + 2 * (todo ++ still).length + report) +
      if todo.isEmpty then 2 else 0
  | _ => 0

private theorem patience_antitone {now later : Nat} (h : now ≤ later) (pending : List Pending) :
    patience later pending ≤ patience now pending := by
  induction pending with
  | nil => exact le_rfl
  | cons p pending ih =>
    simp only [patience, map_cons, sum_cons] at ih ⊢
    omega

private theorem patience_nil (now : Nat) : patience now [] = 0 := rfl

private theorem patience_append (now : Nat) (ps qs : List Pending) :
    patience now (ps ++ qs) = patience now ps + patience now qs := by
  simp [patience]

private theorem patience_cons (now : Nat) (p : Pending) (ps : List Pending) :
    patience now (p :: ps) = p.since + 1001 - now + patience now ps := by
  simp [patience]

private theorem fuel_waitOne (hphase : s.phase = .waiting (p :: todo) still) :
    (s.waitOne p todo still).phase.inLoop = false ∧ (s.waitOne p todo still).fuel < s.fuel := by
  have htodo := patience_antitone (Nat.le_add_right s.now 100) todo
  have hstill := patience_antitone (Nat.le_add_right s.now 100) still
  unfold waitOne
  split
  · refine ⟨rfl, ?_⟩
    simp only [fuel, hphase, patience_append, patience_cons, length_append,
      length_cons]
    cases todo <;> cases s.dropTokens <;> simp <;> omega
  · refine ⟨rfl, ?_⟩
    dsimp only
    split
    · simp only [fuel, hphase, patience_append, patience_cons, length_append,
        length_cons]
      cases todo <;> simp <;> omega
    · simp only [fuel, hphase, patience_append, patience_cons, patience_nil,
        length_append, length_cons, length_nil]
      cases todo <;> simp <;> omega

private theorem fuel_reportRemaining (hphase : s.phase = .reporting) (reply : Reply) :
    (s.reportRemaining reply).phase.inLoop = false ∧ (s.reportRemaining reply).fuel < s.fuel := by
  unfold reportRemaining
  split
  · exact ⟨rfl, by simp [fuel, hphase]⟩
  · next hsome =>
    split
    · next hempty =>
      refine ⟨rfl, ?_⟩
      simp only [fuel, hphase, hempty, append_nil]
      cases hp : s.pendingDropTokens with
      | nil => simp [hp, hempty] at hsome
      | cons => simp
    · next hne =>
      split
      · refine ⟨rfl, ?_⟩
        simp only [fuel, report, hphase, append_nil, isEmpty_nil, if_true, if_neg hne]
        split <;> omega
      all_goals exact ⟨rfl, by simp [fuel, hphase]⟩

private theorem fuel_advance (hloop : s.phase.inLoop = false) (hended : s.phase ≠ .ended)
    (reply : Reply) :
    (s.advance reply).phase.inLoop = false ∧ (s.advance reply).fuel < s.fuel := by
  unfold advance
  cases hphase : s.phase with
  | checking | requesting | forwarding =>
    rw [hphase] at hloop
    cases hloop
  | reporting => exact fuel_reportRemaining hphase reply
  | waiting todo still =>
    cases todo with
    | nil => exact ⟨rfl, by simp [fuel, hphase]⟩
    | cons p todo => exact fuel_waitOne hphase
  | ended => exact absurd hphase hended

private theorem fuel_later (time : Nat) : fuel { s with now := s.now + time } ≤ s.fuel := by
  have h := fun pending => patience_antitone (Nat.le_add_right s.now time) pending
  simp only [fuel]
  split
  · have := h s.pendingDropTokens
    omega
  · next todo still _ =>
    have := h (todo ++ still)
    omega
  · exact le_rfl

def Input.isAdvance : Input → Bool
  | advance _ => true
  | _ => false

private theorem fuel_step (i : Input) (hi : i.isAdvance = false) :
    (step s i).1.phase = s.phase ∧ (step s i).1.fuel ≤ s.fuel := by
  cases i with
  | advance => cases hi
  | pass time => exact ⟨rfl, fuel_later time⟩
  | dropEvent event =>
    simp only [step]
    split <;> exact ⟨rfl, le_rfl⟩
  | dropReceiver => exact ⟨rfl, le_rfl⟩

private theorem run_of_ended (inputs : List Input) (h : s.phase = .ended) :
    (Machine.run step s inputs).1.phase = .ended := by
  induction inputs generalizing s with
  | nil => exact h
  | cons i inputs ih =>
    refine ih ?_
    cases hi : i.isAdvance with
    | false => rw [(fuel_step i hi).1, h]
    | true =>
      cases i with
      | advance reply => simp [step, advance, h]
      | _ => cases hi

private theorem run_of_fuel (inputs : List Input) (hloop : s.phase.inLoop = false)
    (hfuel : s.fuel ≤ inputs.countP Input.isAdvance) :
    (Machine.run step s inputs).1.phase = .ended := by
  induction inputs generalizing s with
  | nil =>
    by_contra hended
    have := (fuel_advance hloop hended .empty).2
    simp at hfuel
    omega
  | cons i inputs ih =>
    by_cases hended : s.phase = .ended
    · exact run_of_ended (i :: inputs) hended
    · cases hi : i.isAdvance with
      | false =>
        obtain ⟨hphase, hle⟩ := @fuel_step s i hi
        refine ih (by rw [hphase, hloop]) ?_
        rw [countP_cons_of_neg (by simp [hi])] at hfuel
        exact hle.trans hfuel
      | true =>
        rw [countP_cons_of_pos hi] at hfuel
        cases i with
        | advance reply =>
          obtain ⟨hloop', hlt⟩ := fuel_advance hloop hended reply
          exact ih hloop' (show (s.advance reply).fuel ≤ _ by omega)
        | _ => cases hi

end

/-! ## Whole runs -/

/-- In a careful run each token is given back once. After the end of the stream the thread ends, too,
whatever the user and the daemon do. -/
theorem conserved_of_careful (inputs : List Input) (h : Machine.Along step Careful {} inputs) :
    Conserved (Machine.run step {} inputs).1 ∧
      ((Machine.run step {} inputs).1.endedAt.isSome → ∃ n, ∀ more,
        n ≤ more.countP Input.isAdvance →
          (Machine.run step (Machine.run step {} inputs).1 more).1.phase = .ended) := by
  have hinit : Inv [] {} := ⟨fun _ => rfl, nodup_nil, nofun, nofun, nofun, ⟨rfl, nofun, fun _ => rfl⟩⟩
  obtain ⟨given, hinv⟩ := Machine.invariant step (fun s => ∃ given, Inv given s)
    (fun s i ⟨_, hs⟩ hc => inv_step hs hc) {} inputs ⟨[], hinit⟩ h
  refine ⟨hinv.conserved, fun hended => ⟨_, fun more hmore => run_of_fuel more ?_ hmore⟩⟩
  rw [hinv.placed.ending, isNone_eq_false_iff]
  exact hended

/-- Sample of an input in shared memory. -/
def depthImage : NodeEvent :=
  .input ⟨"depth", by decide⟩ ⟨0, ⟨0, 0⟩, ⟨.null, 0, 0, none, 0, [], [], none, none⟩, ∅⟩
    (some (.sharedMemory "region" 4096 7))

/-- The user drops the event while the thread runs, and the stream ends. -/
def depthRun : List Input :=
  [.advance .other, .advance (.nextEvents [depthImage]), .advance .other, .advance .other,
    .dropEvent 0, .advance .other, .advance .other, .advance (.nextEvents []), .advance .other]

/-- One token, which is given back. -/
theorem conserved_depthRun :
    Conserved (Machine.run step {} depthRun).1 ∧
      (Machine.run step {} depthRun).1.reported = [⟨0, 7⟩] ∧
      (Machine.run step {} depthRun).1.phase = .ended := by
  refine ⟨(conserved_of_careful depthRun ⟨trivial, nofun, ⟨nofun, nofun⟩, trivial, trivial, trivial,
    trivial, nofun, ?_, trivial⟩).1, rfl, rfl⟩
  exact fun h => absurd rfl h

/-- An input arrives in one batch with the news that all inputs are closed. -/
def closedRun : List Input :=
  [.advance .other, .advance (.nextEvents [.allInputsClosed, depthImage]), .advance .other,
    .advance .other, .advance .other, .advance .other, .advance (.nextEvents []), .advance .other]

/-- The thread discards the input and ends without giving back its token. -/
theorem not_conserved :
    (Machine.run step {} closedRun).1.phase = .ended ∧
      (Machine.run step {} closedRun).1.fetched = [⟨1, 7⟩] ∧
      (Machine.run step {} closedRun).1.reported = [] ∧
      ¬ Conserved (Machine.run step {} closedRun).1 := by
  refine ⟨rfl, rfl, rfl, fun h => ?_⟩
  have hlate := h.complete rfl ⟨1, 7⟩ mem_cons_self not_mem_nil 0 rfl 0 rfl
  exact absurd hlate (by decide)

end DoraSpec.Node.EventThread
