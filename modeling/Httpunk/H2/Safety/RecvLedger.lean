import Httpunk.H2.Driver.Invariant

/-!
# H2 — Safety — RecvLedger

The receive window of the connection is conserved: what the peer may still send, announced or
not, and what the streams hold unread, add up to the configured window.

* `Move.ledger`: a move keeps the sum, but for the bytes it forgets.
* `Sys.ledger_balanced`: the sum holds in every run that has recorded no error, as long as no
  GOAWAY of a server drops a stream that holds unread bytes.
-/

namespace Httpunk.H2

open Runs (Reach)

/-! ### The ledger of a connection -/

/-- The connection's available receive capacity and the unread bytes of its streams. -/
def Inner.ledger (me : Inner) : Int := me.connRecv.available.val + me.unreleased

/-- The unread bytes a move takes out of the store and gives back to nobody. -/
def Kind.forgotten : Kind → Nat
  | .forget n => n
  | _ => 0

open Httpunk.H2.Inner

variable {s s' : Inner} {k : Kind} {extra : Kind → Prop} {sid n : Nat} {e e' : StreamEntry}

theorem unreleased_setStream (e' : StreamEntry) (he : s.streams.lookup sid = some e) :
    (s.setStream sid e').unreleased + e.recvUnreleased = s.unreleased + e'.recvUnreleased :=
  Store.total_insert (w := unreleasedOf) he

theorem le_unreleased (he : s.streams.lookup sid = some e) : e.recvUnreleased ≤ s.unreleased :=
  Store.weight_le_total (w := unreleasedOf) he

/-- Bytes that go back to the connection. -/
theorem ledger_reclaimConn {t : Inner} (h : s.Wf) (hc : t.connRecv = s.connRecv)
    (hn : n ≤ s.unreleased) :
    (t.reclaimConn n).ledger = s.connRecv.available.val + t.unreleased + n := by
  have hl := h.ledger
  obtain ⟨fc, fs, hs, ha, -, -⟩ := reclaimConn_spec (hc ▸ h.recvWindow)
    (show t.connRecv.available.val + n ≤ maxWindowSize by rw [hc]; omega)
  rw [hs]
  unfold ledger
  change fc.available.val + (t.unreleased : Int) = _
  rw [hc] at ha
  omega

/-- **A move keeps the ledger, but for what it forgets.** -/
theorem Move.ledger (m : Move s k s') (h : s.Wf) : s'.ledger + k.forgotten = s.ledger := by
  have hl := h.ledger
  -- a move that leaves the window and the sum of the counts
  have same : ∀ {t : Inner}, t.connRecv = s.connRecv → t.unreleased = s.unreleased →
      t.ledger + (0 : Nat) = s.ledger := fun hc hu => by
    unfold Inner.ledger
    rw [hc, hu]
    exact Int.add_zero _
  -- one that writes an entry back with the count it had
  have write : ∀ {sid : Nat} {e e' : StreamEntry}, s.streams.lookup sid = some e →
      e'.recvUnreleased = e.recvUnreleased → (s.setStream sid e').unreleased = s.unreleased := by
    intro sid e e' he hu
    have := unreleased_setStream e' he
    omega
  cases m with
  | admin ha => exact same ha.connRecv (ha.total fun he => he.recvUnreleased)
  | state he _ => exact same rfl (write he rfl)
  | finish he _ _ => exact same rfl (write he rfl)
  | @remove sid e he hf hu =>
      have ht := Store.total_erase (w := unreleasedOf) he
      rw [unreleasedOf, hu, Nat.add_zero] at ht
      exact same rfl ht
  | @reclaim sid e he hd =>
      have hu := unreleased_setStream { e with
        dataBudgetCharged := 0, recvUnreleased := 0, recvReclaimed := true } he
      have hle := le_unreleased he
      unfold reclaimEntry
      dsimp only
      rw [ledger_reclaimConn h ?_ hle]
      · unfold Inner.ledger
        change s.connRecv.available.val + ((s.setStream sid _).unreleased : Int) + _ + (0 : Nat) = _
        simp only at hu
        omega
      · rfl
  | reply hd =>
      rw [maybeGoawayReply_of_due hd]
      exact same rfl rfl
  | head he _ _ _ => exact same rfl (write he rfl)
  | data he _ _ _ _ _ => exact same rfl (write he rfl)
  | @forget sid e he hc =>
      have hu := unreleased_setStream { e with
        recvUnreleased := 0, dataBudgetCharged := 0, recvReclaimed := true } he
      unfold Inner.ledger
      change s.connRecv.available.val + ((s.setStream sid _).unreleased : Int) +
        (e.recvUnreleased : Nat) = _
      simp only at hu
      omega
  | @swallow sz fc hc =>
      obtain ⟨hw, ha, hn⟩ := fcSendData_ok hc
      have hle : fc.available.val + sz ≤ maxWindowSize := by omega
      obtain ⟨fc', fs, hs, ha', -, -⟩ := reclaimConn_spec (h.consume hc).recvWindow hle
      rw [hs]
      unfold Inner.ledger
      change fc'.available.val + (s.unreleased : Int) + (0 : Nat) = _
      simp only at ha'
      omega
  | @receive sid sz fc e he hr hc =>
      obtain ⟨-, ha, -⟩ := fcSendData_ok hc
      have hfit := h.receive_fits he hc
      unfold maxWindowSize at hfit
      have hu := unreleased_setStream { e with
        recvUnreleased := (e.recvUnreleased + sz) % 2 ^ 32 } he
      rw [Nat.mod_eq_of_lt (by omega)] at hu ⊢
      unfold Inner.ledger
      change fc.available.val + ((s.setStream sid _).unreleased : Int) + (0 : Nat) = _
      simp only at hu
      omega
  | @settle sid n e he hr hn =>
      have hu := unreleased_setStream { e with
        recvUnreleased := e.recvUnreleased - n } he
      have hle := le_unreleased he
      rw [ledger_reclaimConn h ?_ (hn.trans hle)]
      · unfold Inner.ledger
        change s.connRecv.available.val + ((s.setStream sid _).unreleased : Int) + _ + (0 : Nat) = _
        simp only at hu
        omega
      · rfl
  | @accept sid st eos hr hlt hm hs =>
      refine same rfl (Store.total_insert_new ?_)
      exact h.lookup_none_of_not_used (by simp only [Used, hr]; omega)
  | @request isHead eos block st hr hd hm hs =>
      refine same rfl (Store.total_insert_new ?_)
      exact h.lookup_none_of_not_used (by simp only [Used, hr]; omega)
  | streamGrant he _ _ => exact same rfl (write he rfl)
  | @resize new r hn hr =>
      refine same rfl ?_
      rw [← hr]
      refine Store.total_scan fun j e hj => ?_
      obtain ⟨fc, hfc, -⟩ := Wf.resizeSend_spec (k := j) (h.sendFlow hj) h.window hn
      rw [hfc]
      rfl
  | _ => exact same rfl rfl

/-- A run of moves that forgets nothing keeps the ledger. -/
theorem Moves.ledger (r : Moves extra s s') (h : s.Wf) (hk : ∀ k, extra k → k.forgotten = 0) :
    s'.ledger = s.ledger := by
  have hinv : s'.Wf ∧ s'.ledger = s.ledger := by
    refine Reach.invariant (I := fun t => t.Wf ∧ t.ledger = s.ledger) r ⟨h, rfl⟩ ?_
    intro t k t' ⟨htw, htl⟩ m hm
    have h0 : k.forgotten = 0 := by
      rcases hm with hm | hm
      · cases k <;> first | rfl | cases hm
      · exact hk k hm
    have hl := m.ledger htw
    rw [h0] at hl
    exact ⟨m.wf htw, by omega⟩
  exact hinv.2

/-! ### Runs -/

namespace Inner

/-- A failure records an error. -/
theorem fail_error (me : Inner) (exc : Option Err) (message : String) :
    (me.fail exc message).1.error.isSome = true := by
  unfold fail failAll
  dsimp only
  have h : ∀ m : Inner, m.error.isSome = true →
      (m.abortAll none m.streams.keys).1.error.isSome = true := fun m hm => by
    rw [(abortAll_moves m none m.streams.keys).grows.error hm]
    exact hm
  cases me.error <;> exact h _ rfl

/-- A failure leaves an error. -/
theorem failed_error (me : Inner) (exc : Option Err) (message : String) :
    (me.fail exc message).1.error ≠ none := fun h => by
  have := fail_error me exc message
  rw [h] at this
  cases this

end Inner

namespace Sys

variable {σ σ' : Sys} {a : Action} {cfg : Config}

/-- A failure of the connection is recorded. -/
theorem error_of_fails (hs : Step σ a σ') (hf : σ.fails a = true) : σ'.inner.error ≠ none := by
  cases a with
  | call c =>
      obtain ⟨-, rfl⟩ := hs.call
      cases c with
      | fail exc message => exact Inner.failed_error σ.inner exc message
      | _ => cases hf
  | pump =>
      unfold Step step pumpStep at hs
      dsimp only at hs
      unfold fails at hf
      cases hp : σ.pump with
      | failing e =>
          rw [hp] at hs
          cases hs
          exact Inner.failed_error σ.inner (some e) ""
      | _ => simp [hp] at hf
  | _ => cases hf

theorem not_fails_of_error (hs : Step σ a σ') (he : σ'.inner.error = none) :
    σ.fails a = false := by
  by_contra hn
  exact error_of_fails hs (by simpa using hn) he

/-- The condition on a step: a GOAWAY drops no stream that holds unread bytes. -/
def dropsNothingUnread (σ : Sys) : Action → Bool
  | .recv (.goAway f) => (σ.inner.dropped f).all fun sid =>
      (σ.inner.streams.lookup sid).all fun e => e.recvUnreleased == 0
  | _ => true

/-- A step that records no error and drops no unread bytes keeps the ledger. -/
theorem ledger_step (h : σ.Ok) (hs : Step σ a σ') (hc : σ.dropsNothingUnread a = true)
    (he : σ'.inner.error = none) : σ'.inner.ledger = σ.inner.ledger := by
  by_cases ha : a = .flush
  · subst ha
    cases hs
    rfl
  refine (h.step_moves hs ha).ledger h.wf fun k hk => ?_
  cases k with
  | forget n =>
      cases a with
      | recv f =>
          obtain ⟨g, rfl, sid, hd, e, hl, rfl⟩ := Inner.addedBy_of_frameKinds hk
          have hall := List.all_eq_true.mp hc sid hd
          rw [hl] at hall
          exact beq_iff_eq.mp hall
      | call c =>
          obtain ⟨⟨exc, message, rfl⟩, -⟩ := Inner.calledBy_of_callKinds hk
          cases hs
          have hf := Inner.fail_error σ.inner exc message
          rw [show ((σ.inner.fail exc message).1).error = none from he] at hf
          cases hf
      | pump =>
          unfold Step step pumpStep at hs
          unfold kinds at hk
          cases hp : σ.pump <;> rw [hp] at hs hk
          case failing e =>
            cases hs
            have hf := Inner.fail_error σ.inner (some e) ""
            rw [show ((σ.inner.fail (some e) "").1).error = none from he] at hf
            cases hf
          all_goals cases hk
      | _ => exact hk.elim
  | _ => rfl

/-- The receive ledger balances: it is the window the connection was configured with. -/
def Balanced (cfg : Config) (σ : Sys) : Prop :=
  σ.inner.ledger = max defaultInitialWindowSize cfg.connectionWindow

theorem balanced_init (cfg : Config) : Balanced cfg (init cfg) := by
  obtain ⟨fc, fs, hb, ha, -, -⟩ := Inner.begin_spec cfg
  rw [Balanced, inner_init, hb]
  exact (Int.add_zero _).trans ha

/-- **The receive window is conserved** in every run that records no error and in which no
GOAWAY drops unread bytes. -/
theorem ledger_balanced (r : Run (fun σ a => σ.dropsNothingUnread a = true) cfg σ)
    (he : σ.inner.error = none) : Balanced cfg σ := by
  have hinv : σ.Ok ∧ (σ.inner.error = none → Balanced cfg σ) := by
    refine Reach.invariant (I := fun σ : Sys => σ.Ok ∧ (σ.inner.error = none → Balanced cfg σ)) r
      ⟨ok_init cfg, fun _ => balanced_init cfg⟩ ?_
    intro σ a σ' ⟨hok, hl⟩ hs hc
    refine ⟨hok.step hs, fun he' => (ledger_step hok hs hc he').trans (hl ?_)⟩
    rcases herr : σ.inner.error with _ | err
    · rfl
    · rw [(hok.grows hs).error (by rw [herr]; rfl), herr] at he'
      cases he'
  exact hinv.2 he

/-- Two requests; the second is answered with a head and five bytes, which nobody has read when
a GOAWAY drops it. -/
def unreadDropped : List Action := openGet ++ openGet ++ [
  .recv (.headers { streamId := 3, inRange := inRange_three, endStream := false, status := some 200 }),
  .recv (.data { streamId := 3, inRange := inRange_three, endStream := false, data := [1, 2, 3, 4, 5] }),
  .recv (.goAway ⟨1, .noError, []⟩)]

/-- The five bytes are lost to the window. -/
theorem ledger_leaks : ¬ ∀ (cfg : Config) (σ : Sys), Reached cfg σ → σ.inner.error = none →
    Balanced cfg σ := by
  intro h
  obtain ⟨σ, r, hσ⟩ := reached_of_exec clientConfig unreadDropped
    (fun σ => σ.inner.error.isNone && σ.inner.ledger == 65530) (by decide +kernel)
  simp only [Bool.and_eq_true, Option.isNone_iff_eq_none, beq_iff_eq] at hσ
  have := h clientConfig σ r hσ.1
  rw [Balanced, hσ.2] at this
  exact absurd this (by decide)

/-- The same, but that the five bytes are read and released before the GOAWAY. -/
theorem ledger_balanced_released : ∃ σ,
    Run (fun σ a => σ.dropsNothingUnread a = true) clientConfig σ ∧ σ.inner.error = none ∧
      σ.inner.goaway.isSome = true ∧ Balanced clientConfig σ := by
  obtain ⟨σ, r, hσ⟩ := run_of_exec dropsNothingUnread clientConfig
    (unreadDropped.take 6 ++ [.call (.releaseCapacity 3 5)] ++ unreadDropped.drop 6)
    (fun σ => σ.inner.error.isNone && σ.inner.goaway.isSome) (by decide +kernel)
  simp only [Bool.and_eq_true, Option.isNone_iff_eq_none] at hσ
  exact ⟨σ, r, hσ.1, hσ.2, ledger_balanced r hσ.1⟩

end Sys

end Httpunk.H2
