import SteadyLink.Proofs.Failures

/-!
# Hooks for faults

A hook for faults that keeps up with the bus is called once with every failure since its registration,
in the order in which they happen, and with nothing else. Unless somebody removes it, its task ends only
after the supervisor has left. Then its callback has been called with every failure from before the task
looked last: between that look and the next step something can go wrong and the supervisor leave.
-/

namespace SteadyLink.Proofs

/-- What the callback of a hook is called with, which was registered in the first client. -/
structure ErrorHookLaw (s₁ : Client) (i : Nat) (trail : Trail) (s : Client) : Prop where
  there : ∃ h, s.hooks[i]? = some h
  /-- All that went wrong is what the callback was called with and what its task still has. -/
  kept : ∀ h, s.hooks[i]? = some h → h.running = true →
    ∃ faults, BefallsAlong trail faults ∧ noticed s.hub i ++ awaiting s h = faults.map .fault
  /-- The hook has ended after the supervisor only, and was called with all that went wrong before its
  task looked last. What went wrong between that look and the next step of the task is missed. -/
  complete : ∀ h, s.hooks[i]? = some h → h.running = false →
    ∃ before gap after found mid faults missed,
      trail = before ++ gap ++ ⟨mid, .work (.hook i)⟩ :: after ∧ Journey s₁ before found ∧
        LastLook i found gap mid ∧ mid.supervisor.phase = .exited ∧ BefallsAlong before faults ∧
        BefallsAlong gap missed ∧ noticed s.hub i = faults.map .fault
  /-- After the supervisor the task does come to its end, if only it runs; and with everything, if it was
  not about to end when the supervisor left. -/
  ends : ∀ h, s.hooks[i]? = some h → h.running = true → s.supervisor.phase = .exited →
    ∃ later s' h' faults, RunsOut s i later s' h' ∧ BefallsAlong trail faults ∧
      (h.pass ≠ .checking → noticed s'.hub i = faults.map .fault)
  /-- There is one account only of what went wrong. -/
  one : ∀ faults other, BefallsAlong trail faults → BefallsAlong trail other → faults = other
  /-- What goes wrong after the supervisor are observers alone. -/
  afterwards : ∀ before after mid faults, trail = before ++ after → Journey s₁ before mid →
    Journey mid after s → mid.supervisor.phase = .exited → BefallsAlong after faults →
      ∀ f ∈ faults, ∃ name info, f = .observer name info

section Registration

variable {s₁ s : Client} {i : Nat} {h₁ : Hook} {trail : Trail}

lemma noticesSince_faults {id : Nat} (hreceiver : receiverOf? h₁ = some id) :
    noticesSince s₁ h₁ s = ((publishedSince s₁ s).filterMap Event.fault).map .fault := by
  rw [noticesSince, hreceiver, List.map_filterMap]
  rfl

/-- A hook for faults that nobody has called yet, and that nothing waits for, obeys the law. -/
theorem error_hook_law {id : Nat} (w : Wired s₁) (hh : s₁.hooks[i]? = some h₁)
    (attached : Attached s₁ h₁) (receiver : receiverOf? h₁ = some id)
    (reading : h₁.pass = .reading) (running : h₁.running = true) (kept : h₁.removed = false)
    (uncalled : noticed s₁.hub i ++ awaiting s₁ h₁ = [])
    (j : Journey s₁ trail s) (never : ∀ m ∈ trail, removed? m.choice ≠ some i)
    (keeps : KeepsUp i h₁ trail s) : ErrorHookLaw s₁ i trail s := by
  have w' := journey_wired w j
  have hwhole {trail : Trail} {s : Client} {h : Hook} (v : Serving s₁ i h₁ trail s h)
      (keeps : KeepsUp i h₁ trail s) : noticed s.hub i ++ awaiting s h =
        ((publishedSince s₁ s).filterMap Event.fault).map .fault := by
    rw [v.whole keeps, uncalled, noticesSince_faults receiver]
    rfl
  have hone (faults other : List Fault) (h : BefallsAlong trail faults)
      (h' : BefallsAlong trail other) : faults = other := befallsAlong_unique h h'
  have hafter (before after : Trail) (mid : Client) (faults : List Fault)
      (_ : trail = before ++ after) (past : Journey s₁ before mid) (later : Journey mid after s)
      (exited : mid.supervisor.phase = .exited) (h : BefallsAlong after faults) :
      ∀ f ∈ faults, ∃ name info, f = .observer name info :=
    exited_befalls (journey_wired w past) exited later h
  cases hook_fate w hh attached running j with
  | @serves _ _ h v looked =>
    have honly (g : Hook) (hg : s.hooks[i]? = some g) : g = h :=
      Option.some.inj (hg.symm.trans v.hook)
    refine ⟨⟨h, v.hook⟩, ?_, ?_, ?_, hone, hafter⟩
    · intro g hg _
      rw [honly g hg]
      exact ⟨_, befalls_published w j, hwhole v keeps⟩
    · intro g hg hstopped
      rw [honly g hg, v.running] at hstopped
      cases hstopped
    · intro g hg _ exited
      obtain ⟨later, s', h', out, hnoticed⟩ :=
        hook_drains w' v.hook v.attached v.running (Or.inr (w'.ended.mpr exited))
      refine ⟨later, s', h', _, out, befalls_published w j, fun away => ?_⟩
      exact (hnoticed (honly g hg ▸ away)).trans (hwhole v keeps)
  | @ended before gap after found mid _ g h h' v idle look last cause later hook stopped silent =>
    have honly (g : Hook) (hg : s.hooks[i]? = some g) : g = h' :=
      Option.some.inj (hg.symm.trans hook)
    refine ⟨⟨h', hook⟩, ?_, ?_, ?_, hone, hafter⟩
    · intro g hg hrunning
      rw [honly g hg, stopped] at hrunning
      cases hrunning
    · intro _ _ _
      have hmid : mid.supervisor.phase = .exited :=
        serving_exited w last kept (fun m hm => never m (List.mem_append_left _ hm)) cause
      have upTo : KeepsUp i h₁ before found := by
        rw [List.append_assoc] at keeps
        exact keepsUp_earlier keeps (journey_append look.journey later)
      refine ⟨before, gap, after, found, mid, _, _, rfl, v.journey, look, hmid,
        befalls_published w v.journey, befalls_published (journey_wired w v.journey) look.journey, ?_⟩
      rw [silent, ← hwhole v upTo, idle, List.append_nil]
    · intro g hg hrunning
      rw [honly g hg, stopped] at hrunning
      cases hrunning
  | left looked => cases reading.symm.trans looked.checking

end Registration

/-- Every failure reaches a hook for faults once, until its task looks last. -/
theorem error_hooks_exact {c : Config} {observers : List Observer} {past trail : Trail}
    {s₁ s : Client} {panic : Option Panic} {h : Hook}
    (before : Journey (.fresh c observers) past s₁) (held : s₁.hub.handles ≠ 0)
    (registered : (act s₁ (.onError panic)).hooks[s₁.hooks.length]? = some h)
    (j : Journey (act s₁ (.onError panic)) trail s)
    (never : ∀ m ∈ trail, removed? m.choice ≠ some s₁.hooks.length)
    (keeps : KeepsUp s₁.hooks.length h trail s) :
    ErrorHookLaw (act s₁ (.onError panic)) s₁.hooks.length trail s := by
  have w₁ := journey_wired (fresh_wired c observers) before
  have a := aired_deed s₁ (.onError panic)
  have haction : act s₁ (.onError panic) = (s₁.onError panic).2 := if_neg held
  obtain rfl : h = ⟨.faults s₁.hub.bus.subscribed, .reading, false, true, panic⟩ := by
    rw [haction] at registered
    exact (Option.some.inj (List.getElem?_concat_length.symm.trans registered)).symm
  have hfresh : (act s₁ (.onError panic)).hub.bus.receivers.get? s₁.hub.bus.subscribed =
      some .fresh := by
    rw [haction]
    exact subscribe_there s₁.hub.bus
  refine error_hook_law (wired_aired w₁ rfl a) registered
    (a.newcomers _ _ (Nat.le_refl _) registered) rfl rfl rfl rfl ?_ j never keeps
  rw [awaiting_faults rfl hfresh, haction]
  show noticed s₁.hub s₁.hooks.length ++ [] = []
  rw [w₁.unheard _ (Nat.le_refl _), List.append_nil]

/-- An observer that fails when it is told that an attempt has failed. -/
def fragile : Observer := ⟨"fragile", 4, .zero, Observer.failsOn .attemptFailed .other, false⟩

/-- An attempt is refused, which the first observer is told of; then the only handle is dropped, and the
first hook runs to its end. -/
def refusal : List Choice :=
  [.deed (.call .start), .take 0, .meet 0 .attemptBegun, .meet 0 (.connectFailed (.io "refused")),
    .work .listener, .work .listener] ++ List.replicate 4 (.work (.worker 0)) ++
    [.deed .dropHandle, .take 0] ++ List.replicate 9 (.work (.hook 0))

/-- The observer panics, and so does the callback on both failures. -/
theorem error_hooks_exact_refused : ∃ trail s h,
    (Client.fresh .standard [fragile]).hub.handles ≠ 0 ∧
      (act (.fresh .standard [fragile]) (.onError (some .other))).hooks[0]? = some h ∧
      Journey (act (.fresh .standard [fragile]) (.onError (some .other))) trail s ∧
      (∀ m ∈ trail, removed? m.choice ≠ some 0) ∧ KeepsUp 0 h trail s ∧
      ErrorHookLaw (act (.fresh .standard [fragile]) (.onError (some .other))) 0 trail s ∧
      s.hooks.map Hook.running = [false] ∧
      noticed s.hub 0 = [.fault (.transport (.io "refused")),
        .fault (.observer "fragile" (Panic.info .other))] := by
  have before : Journey (.fresh .standard [fragile]) [] (.fresh .standard [fragile]) := .start
  have held : (Client.fresh .standard [fragile]).hub.handles ≠ 0 := by decide
  obtain ⟨trail, s, j, never, keeps, ended, calls⟩ : ∃ trail s,
      Journey (act (.fresh .standard [fragile]) (.onError (some .other))) trail s ∧
        (∀ m ∈ trail, removed? m.choice ≠ some 0) ∧
        ((∀ m ∈ trail, lagOf m.before 0 = 0) ∧ lagOf s 0 = 0) ∧
        s.hooks.map Hook.running = [false] ∧
        noticed s.hub 0 = [.fault (.transport (.io "refused")),
          .fault (.observer "fragile" (Panic.info .other))] :=
    travel_shows refusal (by decide +kernel)
  exact ⟨trail, s, _, held, rfl, j, never, Or.inr keeps,
    error_hooks_exact before held rfl j never (Or.inr keeps), ended, calls⟩

/-- The task of the hook finds nothing; then the attempt is refused, the last handle is dropped and the
supervisor leaves, before the task looks whether it shall end. -/
def lateRefusal : List Choice :=
  [.deed (.call .start), .take 0, .meet 0 .attemptBegun, .work (.hook 0), .work (.hook 0),
    .meet 0 (.connectFailed (.io "refused")), .deed .dropHandle, .take 0, .work (.hook 0)]

/-- A hook that was there before the start, that was never removed and that never lagged ends without
having been called with the failure. -/
theorem error_hooks_exact_missed : ∃ trail s,
    (Client.fresh .standard []).hub.handles ≠ 0 ∧
      Journey (act (.fresh .standard []) (.onError none)) trail s ∧
      (∀ m ∈ trail, removed? m.choice ≠ some 0) ∧
      ((∀ m ∈ trail, lagOf m.before 0 = 0) ∧ lagOf s 0 = 0) ∧
      s.supervisor.phase = .exited ∧ s.hooks.map Hook.running = [false] ∧
      noticed s.hub 0 = [] ∧
      (publishedSince (act (.fresh .standard []) (.onError none)) s).filterMap Event.fault =
        [.transport (.io "refused")] := by
  obtain ⟨trail, s, j, never, keeps, exited, ended, calls, faults⟩ : ∃ trail s,
      Journey (act (.fresh .standard []) (.onError none)) trail s ∧
        (∀ m ∈ trail, removed? m.choice ≠ some 0) ∧
        ((∀ m ∈ trail, lagOf m.before 0 = 0) ∧ lagOf s 0 = 0) ∧
        s.supervisor.phase = .exited ∧ s.hooks.map Hook.running = [false] ∧
        noticed s.hub 0 = [] ∧
        (publishedSince (act (.fresh .standard []) (.onError none)) s).filterMap Event.fault =
          [.transport (.io "refused")] :=
    travel_shows lateRefusal (by decide +kernel)
  exact ⟨trail, s, by decide, j, never, keeps, exited, ended, calls, faults⟩

end SteadyLink.Proofs
