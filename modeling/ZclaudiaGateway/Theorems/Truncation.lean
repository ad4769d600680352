import ZclaudiaGateway.Lemmas.Answers
import ZclaudiaGateway.Lemmas.Sample

/-!
# Truncated responses

The end of a response is signalled by the `close` event of the data socket alone, and the listener does not look at the close
code. A response the gateway cuts off itself is destroyed; one whose data socket breaks is ended like a complete one.
`closeCode` gives the code of each socket's `close` event, which it emits once.
-/

namespace ZclaudiaGateway

namespace Gateway

variable {Γ : Ctx} {closeCode : SocketId → Nat}

/-- The event is the `close` event of the exchange's data socket. -/
def DataSocketCloses (s : Gateway) (e : Event) (x : HttpExchange) : Prop :=
  s.uncaught = none ∧ ∃ ws, e = .socketClosed ws ∧ x.ws = some ws ∧ s.net.readyState ws ≠ .closed

/-- The data socket of the exchange was closed with code 1000. -/
def ClosedNormally (closeCode : SocketId → Nat) (e : Event) (x : HttpExchange) : Prop :=
  ∃ ws, e = .socketClosed ws ∧ x.ws = some ws ∧ closeCode ws = 1000

/-- A response whose head is out is ended only by a normal close of the data socket of a live channel; when its data socket
closes otherwise, or its channel goes, it is destroyed. -/
def MarksTruncation (Γ : Ctx) (closeCode : SocketId → Nat) (s : Gateway) (e : Event) : Prop :=
  ∀ ex x, s.net.exchanges.get ex = some x → x.headersSent = true → x.writableEnded = false →
    ∃ x', (s.step Γ e).net.exchanges.get ex = some x' ∧
      (x'.writableEnded = true →
        ClosedNormally closeCode e x ∧ x.destroyed = false ∧ ∃ ch, s.channels.get x.channelId = some ch) ∧
      (¬ ClosedNormally closeCode e x →
        s.DataSocketCloses e x ∨ (s.step Γ e).channels.get x.channelId = none →
        x'.destroyed = true ∧ x'.writableEnded = false)

/-- A data socket breaks while the response it carries is neither ended nor destroyed. -/
def CutsShort (closeCode : SocketId → Nat) (s : Gateway) (e : Event) : Prop :=
  s.uncaught = none ∧ ∃ ex x ws, s.net.exchanges.get ex = some x ∧ e = .socketClosed ws ∧ x.ws = some ws ∧
    s.net.readyState ws ≠ .closed ∧ x.metaReceived = true ∧ x.headersSent = true ∧ x.Pending ∧ closeCode ws ≠ 1000

/-! ## Steps -/

/-- The `close` event of a data socket whose response has a head: the response is ended if nothing else has finished it, and
the channel is gone. -/
theorem socketClosed_bridged {s : Gateway} (hL : s.Legs) {ex : ExchangeId} {x : HttpExchange} {ws : SocketId}
    (hx : s.net.exchanges.get ex = some x) (hw : x.ws = some ws) (hopen : s.net.readyState ws ≠ .closed)
    (hs : x.headersSent = true) (hend : x.writableEnded = false) :
    ∃ x', (s.socketClosed ws).net.exchanges.get ex = some x' ∧ x'.channelId = x.channelId ∧
      x'.writableEnded = (x.metaReceived && !x.destroyed) ∧ (s.socketClosed ws).channels.get x.channelId = none := by
  obtain ⟨k, hk, hl⟩ := hL.socket ex x ws hx hw
  have hstate : k.readyState ≠ .closed := by
    rw [← Net.readyState_eq hk]
    exact hopen
  unfold socketClosed
  rw [hk]
  dsimp only
  rw [if_neg hstate, hl]
  dsimp only
  generalize hu : s.onNet (Net.modifySocket ws (fun k => { k with readyState := .closed })) = u
  have hux : u.net.exchanges.get ex = some x := by rw [← hu]; exact hx
  unfold bridgeClose
  rw [hux]
  dsimp only
  have hfinished : (u.finishResponse x.channelId ex x).net.exchanges.get ex =
      some { x with
        responseTimer := false
        idleTimer := false
        writableEnded := x.metaReceived && !x.destroyed } := by
    rw [finishResponse_exchange, if_pos rfl, hux]
    simp [hend]
  obtain ⟨x', hx', ha⟩ := (teardown_answers .closed x.channelId (u.finishResponse x.channelId ex x)).get_some hfinished
  exact ⟨x', hx', ha.channelId, ha.writableEnded hs, by rw [teardownChannel_channel, if_pos rfl]⟩

/-- Every other event lets a response go on, or answers it. -/
theorem handle_answersKeep {s : Gateway} (fresh : s.Fresh Γ) (hL : s.Legs) (e : Event) {ex : ExchangeId} {x : HttpExchange}
    (hx : s.net.exchanges.get ex = some x) (he : ∀ ws, e = .socketClosed ws → x.ws ≠ some ws) :
    ∃ x', (s.handle Γ e).net.exchanges.get ex = some x' ∧ x.Answers x' := by
  by_cases hclose : ∃ ws, e = .socketClosed ws
  · obtain ⟨ws, rfl⟩ := hclose
    change ∃ x', (s.socketClosed ws).net.exchanges.get ex = some x' ∧ x.Answers x'
    unfold socketClosed
    split
    · exact ⟨x, hx, .refl x⟩
    · rename_i k hk
      split
      · exact ⟨x, hx, .refl x⟩
      · dsimp only
        generalize hu : s.onNet (Net.modifySocket ws (fun k => { k with readyState := .closed })) = u
        have hux : u.net.exchanges.get ex = some x := by rw [← hu]; exact hx
        split
        · exact ⟨x, hux, .refl x⟩
        · exact (controlClose_closes _ _ u).answersKeep ex x hux
        · exact (teardownChannel_closes _ u _).answersKeep ex x hux
        · rename_i channelId ex' hl
          have hne : ex ≠ ex' := by
            rintro rfl
            obtain ⟨x0, hx0, -, hw0⟩ := hL.bridged _ _ _ _ hk hl
            rw [hx, Option.some.injEq] at hx0
            exact he ws rfl (hx0 ▸ hw0)
          unfold bridgeClose
          split
          · exact ⟨x, hux, .refl x⟩
          · rename_i x0 _
            refine (teardown_answers _ _ _).get_some ?_
            rw [finishResponse_exchange, if_neg hne, hux]
  · have hkeep : s.AnswersKeep (s.handle Γ e) := by
      refine handle_preserves (I := fun u => s.AnswersKeep u) e (fun u v hstep hu => ?_) (fun u ws p hu => hu) fresh (.refl s)
      exact hu.trans (hstep.answersKeep fun ws hws => hclose ⟨ws, hws⟩)
    exact hkeep ex x hx

/-- Truncation is marked in a step exactly if the step does not cut a response short. -/
theorem marksTruncation_iff {s : Gateway} (fresh : s.Fresh Γ) (hL : s.Legs) (hs : s.OwesAnswers Γ) (e : Event)
    (ht : (s.step Γ e).OwesAnswers Γ) : MarksTruncation Γ closeCode s e ↔ ¬ CutsShort closeCode s e := by
  -- A response that is still running while its channel is gone was destroyed.
  have hgone {u : Gateway} (hu : u.OwesAnswers Γ) {ex : ExchangeId} {x : HttpExchange} (hx : u.net.exchanges.get ex = some x)
      (hend : x.writableEnded = false) (hc : u.channels.get x.channelId = none) : x.destroyed = true := by
    by_contra hd
    obtain ⟨ch, hch, -⟩ := hu.owed ex x hx ⟨hend, by simpa using hd⟩
    rw [hc] at hch
    cases hch
  rcases hrun : s.uncaught with _ | error
  · have hstep := step_running (Γ := Γ) hrun e
    have hquiet : s.quiet.Legs := hL.turns (quiet_turns s)
    constructor
    · rintro hmarks ⟨-, ex, x, ws, hx, rfl, hw, hopen, hm, hsent, hp, hcode⟩
      obtain ⟨x', hx', hclean, -⟩ := hmarks ex x hx hsent hp.1
      obtain ⟨x1, hx1, -, hended, -⟩ := socketClosed_bridged (s := s.quiet) hquiet hx hw hopen hsent hp.1
      rw [hstep] at hx'
      obtain rfl : x1 = x' := Option.some.inj (hx1.symm.trans hx')
      obtain ⟨⟨ws', hws, hw', hcode'⟩, -⟩ := hclean (by rw [hended, hm, hp.2]; rfl)
      obtain rfl : ws = ws' := Event.socketClosed.inj hws
      exact hcode hcode'
    · intro hcut ex x hx hsent hend
      by_cases hown : s.DataSocketCloses e x
      · obtain ⟨-, ws, rfl, hw, hopen⟩ := hown
        obtain ⟨x', hx', hid, hended, hchannel⟩ := socketClosed_bridged (s := s.quiet) hquiet hx hw hopen hsent hend
        have hx't : (s.step Γ (.socketClosed ws)).net.exchanges.get ex = some x' := by rw [hstep]; exact hx'
        have hct : (s.step Γ (.socketClosed ws)).channels.get x.channelId = none := by rw [hstep]; exact hchannel
        refine ⟨x', hx't, fun hw' => ?_, fun hnormal _ => ?_⟩
        · rw [hended, Bool.and_eq_true, Bool.not_eq_true'] at hw'
          have hpending : x.Pending := ⟨hend, hw'.2⟩
          obtain ⟨ch, hch, -⟩ := hs.owed ex x hx hpending
          refine ⟨⟨ws, rfl, hw, ?_⟩, hw'.2, ch, hch⟩
          by_contra hcode
          exact hcut ⟨hrun, ex, x, ws, hx, rfl, hw, hopen, hw'.1, hsent, hpending, hcode⟩
        · have hnot : x'.writableEnded = false := by
            by_contra hw'
            rw [Bool.not_eq_false, hended, Bool.and_eq_true, Bool.not_eq_true'] at hw'
            exact hcut ⟨hrun, ex, x, ws, hx, rfl, hw, hopen, hw'.1, hsent, ⟨hend, hw'.2⟩,
              fun hcode => hnormal ⟨ws, rfl, hw, hcode⟩⟩
          exact ⟨hgone ht hx't hnot (hid ▸ hct), hnot⟩
      · have hgoes : ∃ x', (s.step Γ e).net.exchanges.get ex = some x' ∧ x'.channelId = x.channelId ∧
            x'.writableEnded = false := by
          by_cases hclosed : ∃ ws, e = .socketClosed ws ∧ x.ws = some ws
          · -- The socket has closed before.
            obtain ⟨ws, rfl, hw⟩ := hclosed
            have hbefore : s.net.readyState ws = .closed := by
              by_contra hopen
              exact hown ⟨hrun, ws, rfl, hw, hopen⟩
            obtain ⟨k, hk, -⟩ := hL.socket ex x ws hx hw
            have hk' : s.quiet.net.sockets.get ws = some k := hk
            have hstate : k.readyState = .closed := (Net.readyState_eq hk).symm.trans hbefore
            refine ⟨x, ?_, rfl, hend⟩
            rw [hstep]
            change (s.quiet.socketClosed ws).net.exchanges.get ex = some x
            unfold socketClosed
            rw [hk']
            dsimp only
            rw [if_pos hstate]
            exact hx
          · obtain ⟨x', hx', ha⟩ := handle_answersKeep (Γ := Γ) (s := s.quiet) (fresh.turns (quiet_turns s)) hquiet e hx
              (fun ws hws hw => hclosed ⟨ws, hws, hw⟩)
            exact ⟨x', by rw [hstep]; exact hx', ha.channelId, (ha.writableEnded hsent).trans hend⟩
        obtain ⟨x', hx', hid, hw'⟩ := hgoes
        refine ⟨x', hx', fun h => absurd (h.symm.trans hw') nofun, fun _ hc => ?_⟩
        rcases hc with hc | hc
        · exact absurd hc hown
        · exact ⟨hgone ht hx' hw' (hid ▸ hc), hw'⟩
  · have hstep := step_stopped (Γ := Γ) hrun e
    refine iff_of_true (fun ex x hx _ hend => ?_) (fun hcut => ?_)
    · rw [hstep] at ht ⊢
      refine ⟨x, hx, fun h => absurd (h.symm.trans hend) nofun, fun _ hc => ?_⟩
      rcases hc with hc | hc
      · exact absurd (hc.1.symm.trans hrun) nofun
      · exact ⟨hgone ht hx hend hc, hend⟩
    · exact absurd (hcut.1.symm.trans hrun) nofun

end Gateway

open Gateway

variable {Γ : Ctx} {storage : Storage} {closeCode : SocketId → Nat}

/-- Along a run truncation is marked exactly if no data socket breaks while it carries a response. -/
theorem truncation_marked (es : List Event) :
    (gateway Γ storage).Meets (MarksTruncation Γ closeCode) es ↔
      (gateway Γ storage).Meets (fun s e => ¬ CutsShort closeCode s e) es := by
  have hiff (pre : List Event) (e : Event) :
      MarksTruncation Γ closeCode ((gateway Γ storage).run pre) e ↔ ¬ CutsShort closeCode ((gateway Γ storage).run pre) e := by
    refine marksTruncation_iff (fresh_run pre) (channels_run pre).2 (owesAnswers_run pre) e ?_
    have hnext : ((gateway Γ storage).run (pre ++ [e])).OwesAnswers Γ := owesAnswers_run _
    rwa [EventMachine.run_snoc] at hnext
  exact forall_congr' fun pre => forall_congr' fun e => imp_congr Iff.rfl (hiff pre e)

/-- The head of a response. -/
def sampleHead : JsonValue := .obj [("status", .num (.finite 200))]

/-- The backend dials the request's channel and answers with a head and one byte; then its data socket breaks. -/
def sampleStreaming : List Event :=
  [.connect, .text 0 (sampleHello "zgb_old" true), .proxy sampleRequest (some "Bearer zgd_device"),
    .upgrade "127.0.0.1" "/channel/ccc?ticket=tttttt" true, .text 3 sampleHead,
    .message 3 { data := [0], isBinary := true } 0 true]

/-- A response that breaks off after its first byte is ended as if it were complete. -/
theorem truncation_presented_as_complete :
    ¬ (gateway (Ctx.sample [sampleHello "zgb_old" true, sampleHead]) sampleStorage).Meets
      (MarksTruncation (Ctx.sample [sampleHello "zgb_old" true, sampleHead]) (fun _ => 1006))
      (sampleStreaming ++ [.socketClosed 3]) := by
  intro h
  have hbefore : (((gateway (Ctx.sample [sampleHello "zgb_old" true, sampleHead]) sampleStorage).run
      sampleStreaming).net.exchanges.get 2).map (fun x => (x.headersSent, x.writableEnded)) = some (true, false) := by
    decide +kernel
  have hafter : ((((gateway (Ctx.sample [sampleHello "zgb_old" true, sampleHead]) sampleStorage).run sampleStreaming).step
      (Ctx.sample [sampleHello "zgb_old" true, sampleHead]) (.socketClosed 3)).net.exchanges.get 2).map
      (fun x => x.writableEnded) = some true := by
    decide +kernel
  obtain ⟨x, hx, hflags⟩ := Option.map_eq_some_iff.mp hbefore
  rw [Prod.mk.injEq] at hflags
  obtain ⟨x', hx', hclean, -⟩ := h sampleStreaming (.socketClosed 3) (List.prefix_refl _) 2 x hx hflags.1 hflags.2
  obtain ⟨x1, hx1, hended⟩ := Option.map_eq_some_iff.mp hafter
  obtain rfl : x1 = x' := Option.some.inj (hx1.symm.trans hx')
  obtain ⟨⟨ws, -, -, hcode⟩, -⟩ := hclean hended
  have hbroken : (1006 : Nat) ≠ 1000 := by decide
  exact hbroken hcode

end ZclaudiaGateway
