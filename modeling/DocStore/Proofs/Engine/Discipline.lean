import DocStore.Proofs.Engine.Record

/-!
# The discipline of a session

Whatever an engine answers, a session keeps an order.  What holds between two calls is
`Ledger.Sound`: the phase says whether there is a connection, and that connection has not been put
out of use.  Every notice that a call can cause keeps it, so every call does
(`Ledger.Sound.serves`), and so does every run of calls.

What a single call causes is `Orderly`: one attempt to connect at most, one text sent at most, the
text of that call, and over a connection that was opened, or said that it can be used, right before
(`Ledger.Serves.orderly`).

The main theorem is `Session.serveAll_disciplined`.
-/

namespace DocStore

namespace Notice

/-- The connection that a notice puts out of use. -/
def ends? : Notice → Option Nat
  | .asked id false | .closed id _ => some id
  | .received id _ (some fault) => if fault.isConnectionLoss then some id else none
  | _ => none

/-- The connection over which a text arrives. -/
def receiver? : Notice → Option Nat
  | .received id _ _ => some id
  | _ => none

/-- Whether a notice is an attempt to connect. -/
def isAttempt : Notice → Bool
  | .opened _ | .refused _ => true
  | _ => false

/-- Nothing arrives in the second notice over a connection that the first put out of use. -/
def Respects (n m : Notice) : Prop := ∀ id, n.ends? = some id → m.receiver? ≠ some id

end Notice

/-- What one call of a session may cause. -/
structure Orderly (text? : Option String) (news : List Notice) : Prop where
  attempts : news.countP Notice.isAttempt ≤ 1
  receipts : news.countP (·.receiver?.isSome) ≤ 1
  own : ∀ id text failure, .received id text failure ∈ news → text? = some text
  /-- Nothing is sent when the attempt to connect fails. -/
  refusal : ∀ fault, .refused fault ∈ news → ∀ n ∈ news, n.receiver? = none
  /-- The notice right before a text arrives is that its connection is ready. -/
  ready : ∀ before id text failure after,
    news = before ++ .received id text failure :: after →
      before.getLast? = some (.opened id) ∨ before.getLast? = some (.asked id true)

namespace Ledger

variable {l l' : Ledger}

/-! ### What holds between calls -/

/-- What holds between two calls. -/
structure Sound (l : Ledger) : Prop where
  linked : l.current.isSome ↔ l.phase = .connected
  settled : l.phase ≠ .connecting
  counted : ∀ id, l.current = some id → id < l.opened
  endedCounted : ∀ n ∈ l.notices, ∀ id, n.ends? = some id → id < l.opened
  /-- The present connection has not been put out of use. -/
  live : ∀ id, l.current = some id → ∀ n ∈ l.notices, n.ends? ≠ some id
  final : l.notices.Pairwise Notice.Respects

namespace Sound

theorem final_append (h : l.Sound) {n : Notice}
    (hn : ∀ id, n.receiver? = some id → l.current = some id) :
    (l.notices ++ [n]).Pairwise Notice.Respects := by
  refine List.pairwise_append.mpr ⟨h.final, List.pairwise_singleton _ _, ?_⟩
  intro m hm n' hn' id hends hreceiver
  obtain rfl := List.mem_singleton.mp hn'
  exact h.live id (hn id hreceiver) m hm hends

/-- The connection is given up, with a notice that sends nothing. -/
theorem givenUp (h : l.Sound) {phase : Phase} (hconnected : phase ≠ .connected)
    (hconnecting : phase ≠ .connecting) {n : Notice} (hreceiver : n.receiver? = none)
    (hends : ∀ id, n.ends? = some id → id < l.opened) :
    Sound ⟨phase, none, l.opened, l.notices ++ [n]⟩ where
  linked := by simp [hconnected]
  settled := hconnecting
  counted := by simp
  endedCounted := by
    intro m hm
    rcases List.mem_append.mp hm with hm | hm
    · exact h.endedCounted m hm
    · rw [List.mem_singleton.mp hm]
      exact hends
  live := by simp
  final := h.final_append fun id hid => by simp [hreceiver] at hid

theorem stale (h : l.Sound) : Sound ⟨.failed, none, l.opened, l.notices ++ l.stale⟩ := by
  cases hcurrent : l.current with
  | none =>
    have hstale : l.stale = [] := by simp [Ledger.stale, hcurrent]
    rw [hstale, List.append_nil]
    exact ⟨by simp, by simp, by simp, h.endedCounted, by simp, h.final⟩
  | some id =>
    have hstale : l.stale = [.asked id false] := by simp [Ledger.stale, hcurrent]
    rw [hstale]
    refine h.givenUp (by simp) (by simp) rfl ?_
    intro id' hid'
    obtain rfl : id = id' := by simpa [Notice.ends?] using hid'
    exact h.counted id hcurrent

/-- A connection is opened. -/
theorem connects (h : l.Sound) :
    Sound ⟨.connected, some l.opened, l.opened + 1, l.notices ++ [.opened l.opened]⟩ where
  linked := by simp
  settled := by simp
  counted := by simp
  endedCounted := by
    intro m hm id hid
    rcases List.mem_append.mp hm with hm | hm
    · exact Nat.lt_succ_of_lt (h.endedCounted m hm id hid)
    · rw [List.mem_singleton.mp hm] at hid
      simp [Notice.ends?] at hid
  live := by
    -- the number is new, so nothing before can have put it out of use
    intro id hid m hm hends
    obtain rfl : l.opened = id := Option.some.inj hid
    rcases List.mem_append.mp hm with hm | hm
    · exact absurd (h.endedCounted m hm _ hends) (Nat.lt_irrefl _)
    · rw [List.mem_singleton.mp hm] at hends
      simp [Notice.ends?] at hends
  final := h.final_append fun id hid => by simp [Notice.receiver?] at hid

/-- The present connection stays in use, with a notice about it. -/
theorem stays (h : l.Sound) {n : Notice} (hends : n.ends? = none)
    (hreceiver : ∀ id, n.receiver? = some id → l.current = some id) :
    Sound { l with notices := l.notices ++ [n] } where
  linked := h.linked
  settled := h.settled
  counted := h.counted
  endedCounted := by
    intro m hm id hid
    rcases List.mem_append.mp hm with hm | hm
    · exact h.endedCounted m hm id hid
    · rw [List.mem_singleton.mp hm, hends] at hid
      exact absurd hid (by simp)
  live := by
    intro id hid m hm
    rcases List.mem_append.mp hm with hm | hm
    · exact h.live id hid m hm
    · rw [List.mem_singleton.mp hm, hends]
      exact (Option.some_ne_none id).symm
  final := h.final_append hreceiver

/-- A text arrives over the present connection, which is given up if its transport is lost. -/
theorem receives (h : l.Sound) {id : Nat} (hid : l.current = some id) (text : String)
    (failure : Option Fault) :
    Sound (behind failure { l with notices := l.notices ++ [.received id text failure] }) := by
  have hreceiver : ∀ id', (Notice.received id text failure).receiver? = some id' →
      l.current = some id' := by
    intro id' hid'
    rw [hid, ← hid', Notice.receiver?]
  by_cases hloss : failure.any Fault.isConnectionLoss = true
  · unfold behind
    rw [if_pos hloss]
    obtain ⟨fault, rfl, hfault⟩ := (Option.any_eq_true _ _).mp hloss
    have hends : (Notice.received id text (some fault)).ends? = some id := by
      simp [Notice.ends?, hfault]
    refine ⟨by simp, by simp, by simp, ?_, by simp, h.final_append hreceiver⟩
    intro m hm id' hid'
    rcases List.mem_append.mp hm with hm | hm
    · exact h.endedCounted m hm id' hid'
    · rw [List.mem_singleton.mp hm, hends] at hid'
      exact h.counted id' (hid.trans hid')
  · unfold behind
    rw [if_neg hloss]
    refine h.stays ?_ hreceiver
    cases failure with
    | none => rfl
    | some fault => simpa [Notice.ends?] using hloss

/-- Sending a text keeps what holds between calls. -/
theorem sends {text : String} {failure : Option Fault} (h : l.Sound)
    (hsends : Sends text l l' failure) : l'.Sound := by
  cases hsends with
  | refused fault =>
    rw [← List.append_assoc]
    exact h.stale.givenUp (by simp) (by simp) rfl (by simp [Notice.ends?])
  | overNew failure =>
    have hopened := h.stale.connects.receives rfl text failure
    simpa only [List.append_assoc, List.singleton_append] using hopened
  | overOld id hid failure =>
    have hasked : Sound { l with notices := l.notices ++ [.asked id true] } :=
      h.stays rfl (by simp [Notice.receiver?])
    have hreceived := hasked.receives hid text failure
    simpa only [List.append_assoc, List.singleton_append] using hreceived

/-- Closing keeps what holds between calls. -/
theorem closes {failure : Option Fault} (h : l.Sound) (hcloses : Closes l l' failure) :
    l'.Sound := by
  cases hcloses with
  | nothing hcurrent =>
    exact ⟨by simp [hcurrent], by simp, h.counted, h.endedCounted, h.live, h.final⟩
  | closed id hid failure =>
    refine h.givenUp (by simp) (by simp) rfl ?_
    intro id' hid'
    obtain rfl : id = id' := by simpa [Notice.ends?] using hid'
    exact h.counted id hid

/-- **Every call keeps what holds between calls.** -/
theorem serves {r : Request} {failure : Option Fault} (h : l.Sound)
    (hserves : l.Serves r l' failure) : l'.Sound := by
  cases hserves with
  | unwritten c hcommand fault hrender => exact h
  | sent text htext l' failure hsends => exact h.sends hsends
  | closed hcommand l' failure hcloses => exact h.closes hcloses

end Sound

/-! ### What one call causes -/

/-- Notices that send nothing are orderly as long as there is one attempt to connect at most. -/
theorem orderly_quiet (text? : Option String) {news : List Notice}
    (hattempts : news.countP Notice.isAttempt ≤ 1) (hquiet : ∀ n ∈ news, n.receiver? = none) :
    Orderly text? news := by
  have hnone : ∀ id text failure, .received id text failure ∉ news := fun id text failure hmem =>
    absurd (hquiet _ hmem) (by simp [Notice.receiver?])
  refine ⟨hattempts, ?_, ?_, ?_, ?_⟩
  · have hzero : news.countP (·.receiver?.isSome) = 0 :=
      List.countP_eq_zero.mpr fun n hn => by simp [hquiet n hn]
    rw [hzero]
    exact Nat.zero_le 1
  · intro id text failure hmem
    exact absurd hmem (hnone id text failure)
  · intro fault _
    exact hquiet
  · intro before id text failure after hsplit
    refine absurd ?_ (hnone id text failure)
    rw [hsplit]
    exact List.mem_append_right _ List.mem_cons_self

/-- A text that arrives last, right after its connection is ready, is orderly behind notices that
neither attempt to connect nor send. -/
theorem orderly_sent {quiet : List Notice} {ready : Notice} {id : Nat} (text : String)
    (failure : Option Fault) (hready : ready = .opened id ∨ ready = .asked id true)
    (hattempts : ∀ n ∈ quiet, n.isAttempt = false) (hquiet : ∀ n ∈ quiet, n.receiver? = none) :
    Orderly (some text) (quiet ++ [ready, .received id text failure]) := by
  have hsilent : ready.receiver? = none := by rcases hready with rfl | rfl <;> rfl
  have hnone : ∀ id text failure, .received id text failure ∉ quiet := fun id text failure hmem =>
    absurd (hquiet _ hmem) (by simp [Notice.receiver?])
  refine ⟨?_, ?_, ?_, ?_, ?_⟩
  · have hzero : quiet.countP Notice.isAttempt = 0 :=
      List.countP_eq_zero.mpr fun n hn => by simp [hattempts n hn]
    rw [List.countP_append, hzero, Nat.zero_add]
    rcases hready with rfl | rfl
    · exact Nat.le_refl 1
    · exact Nat.zero_le 1
  · have hzero : quiet.countP (·.receiver?.isSome) = 0 :=
      List.countP_eq_zero.mpr fun n hn => by simp [hquiet n hn]
    have hone : [ready, .received id text failure].countP (·.receiver?.isSome) = 1 := by
      rcases hready with rfl | rfl <;> rfl
    have htotal := List.countP_append.trans (congrArg₂ (· + ·) hzero hone)
    exact Nat.le_of_eq htotal
  · intro id' text' failure' hmem
    rcases List.mem_append.mp hmem with hmem | hmem
    · exact absurd hmem (hnone id' text' failure')
    · rcases hready with rfl | rfl <;>
        · simp only [List.mem_cons, Notice.received.injEq, reduceCtorEq, false_or,
            List.not_mem_nil, or_false] at hmem
          rw [hmem.2.1]
  · intro fault hmem
    rcases List.mem_append.mp hmem with hmem | hmem
    · exact absurd (hattempts _ hmem) (by simp [Notice.isAttempt])
    · rcases hready with rfl | rfl <;> simp at hmem
  · intro before id' text' failure' after hsplit
    rcases List.append_eq_append_iff.mp hsplit with ⟨middle, rfl, htail⟩ | ⟨middle, hquietly, htail⟩
    · match middle, htail with
      | [], htail =>
        obtain ⟨rfl, -⟩ := List.cons.inj htail
        exact absurd hsilent (by simp [Notice.receiver?])
      | [m], htail =>
        obtain ⟨rfl, hrest⟩ := List.cons.inj htail
        obtain ⟨hreceived, -⟩ := List.cons.inj hrest
        obtain ⟨rfl, -, -⟩ := Notice.received.inj hreceived
        simpa using hready
      | _ :: _ :: _, htail => simp at htail
    · match middle, hquietly, htail with
      | [], _, htail =>
        obtain ⟨rfl, -⟩ := List.cons.inj htail
        exact absurd hsilent (by simp [Notice.receiver?])
      | m :: _, hquietly, htail =>
        obtain ⟨rfl, -⟩ := List.cons.inj htail
        refine absurd ?_ (hnone id' text' failure')
        rw [hquietly]
        exact List.mem_append_right _ List.mem_cons_self

/-- The text of a call goes over a connection that is ready. -/
theorem Sends.orderly {text : String} {failure : Option Fault} (h : Sends text l l' failure) :
    ∃ news, l'.notices = l.notices ++ news ∧ Orderly (some text) news := by
  have hstale : ∀ n ∈ l.stale, n.isAttempt = false ∧ n.receiver? = none := by
    intro n hn
    obtain ⟨id, rfl⟩ := eq_asked_of_mem_stale hn
    exact ⟨rfl, rfl⟩
  cases h with
  | refused fault =>
    refine ⟨_, rfl, orderly_quiet _ ?_ ?_⟩
    · have hzero : l.stale.countP Notice.isAttempt = 0 :=
        List.countP_eq_zero.mpr fun n hn => by simp [(hstale n hn).1]
      simp [List.countP_append, hzero, Notice.isAttempt]
    · intro n hn
      rcases List.mem_append.mp hn with hn | hn
      · exact (hstale n hn).2
      · rw [List.mem_singleton.mp hn]
        rfl
  | overNew failure =>
    exact ⟨_, behind_notices _ _, orderly_sent text failure (.inl rfl)
      (fun n hn => (hstale n hn).1) fun n hn => (hstale n hn).2⟩
  | overOld id hid failure =>
    have hsent : Orderly (some text) ([] ++ [.asked id true, .received id text failure]) :=
      orderly_sent text failure (.inr rfl) (by simp) (by simp)
    exact ⟨_, behind_notices _ _, hsent⟩

/-- Closing connects to nothing and sends nothing. -/
theorem Closes.orderly {failure : Option Fault} (h : Closes l l' failure) :
    ∃ news, l'.notices = l.notices ++ news ∧ Orderly none news := by
  cases h with
  | nothing hcurrent => exact ⟨[], by simp, orderly_quiet none (by simp) (by simp)⟩
  | closed id hid failure =>
    exact ⟨_, rfl, orderly_quiet none (by simp [Notice.isAttempt]) (by simp [Notice.receiver?])⟩

/-- **Whatever one call comes to is orderly.** -/
theorem Serves.orderly {r : Request} {failure : Option Fault} (h : l.Serves r l' failure) :
    ∃ news, l'.notices = l.notices ++ news ∧ Orderly r.text? news := by
  cases h with
  | unwritten c hcommand fault hrender =>
    exact ⟨[], by simp, orderly_quiet _ (by simp) (by simp)⟩
  | sent text htext l' failure hsends =>
    rw [htext]
    exact hsends.orderly
  | closed hcommand l' failure hcloses =>
    have htext : r.text? = none := by rw [Request.text?, hcommand, Option.bind_none]
    rw [htext]
    exact hcloses.orderly

end Ledger

namespace Session

variable {ω β : Type}

theorem freshRecorded_sound (url : String) (world : ω) (handle? : Option β) :
    (freshRecorded url world handle?).ledger.Sound := by
  cases handle? with
  | none =>
    exact ⟨by simp [freshRecorded, fresh, start, ledger],
      by simp [freshRecorded, fresh, start, ledger],
      by simp [freshRecorded, fresh, start, ledger],
      by simp [freshRecorded, fresh, start, ledger],
      by simp [freshRecorded, fresh, start, ledger], List.Pairwise.nil⟩
  | some handle =>
    exact ⟨by simp [freshRecorded, fresh, opened, ledger],
      by simp [freshRecorded, fresh, opened, ledger],
      by simp [freshRecorded, fresh, opened, ledger],
      by simp [freshRecorded, fresh, opened, ledger],
      by simp [freshRecorded, fresh, opened, ledger], List.Pairwise.nil⟩

/-- Every run of calls keeps what holds between calls. -/
theorem serveAll_sound (engine : Engine ω β) {s : Session (Recorded ω) (Nat × β)}
    (h : s.ledger.Sound) (requests : List Request) :
    (s.serveAll engine.recorded requests).ledger.Sound := by
  unfold serveAll
  induction requests generalizing s with
  | nil => exact h
  | cons r rest ih =>
    obtain ⟨failure, hserves⟩ := serves_serve engine r s
    exact ih (h.serves hserves)

/-- **A session is disciplined whatever its engine answers.**  Behind any calls and one more, there
is a connection exactly when the phase says so, and no attempt to connect is under way; what the
last call caused is orderly; and in the whole record nothing arrives over a connection that was
closed, was found out of use, or lost its transport.  The record is that of the session over the
engine itself. -/
theorem serveAll_disciplined (engine : Engine ω β) (url : String) (world : ω)
    (handle? : Option β) (requests : List Request) (r : Request) :
    let s := (freshRecorded url world handle?).serveAll engine.recorded requests
    let s' := s.serve engine.recorded r
    s'.plain = (fresh url world handle?).serveAll engine (requests ++ [r]) ∧
      (s'.plain.handle.isSome ↔ s'.plain.phase = .connected) ∧
      s'.plain.phase ≠ .connecting ∧
      (∃ news, s'.world.notices = s.world.notices ++ news ∧ Orderly r.text? news) ∧
      s'.world.notices.Pairwise Notice.Respects := by
  intro s s'
  have hrun : s' = (freshRecorded url world handle?).serveAll engine.recorded (requests ++ [r]) := by
    rw [serveAll, List.foldl_append]
    rfl
  have hsound : s'.ledger.Sound := by
    rw [hrun]
    exact serveAll_sound engine (freshRecorded_sound url world handle?) _
  obtain ⟨failure, hserves⟩ := serves_serve engine r s
  refine ⟨?_, ?_, hsound.settled, hserves.orderly, hsound.final⟩
  · rw [hrun, plain_serveAll, freshRecorded_plain]
  · have hhandle : s'.plain.handle.isSome = s'.ledger.current.isSome := by
      simp [plain, ledger]
    rw [hhandle]
    exact hsound.linked

end Session

end DocStore
