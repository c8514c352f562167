import SteadyLink.Proofs.HookViews

/-!
# Hooks for transitions

A hook for transitions is called with all that was published since it was registered, in order, and
with nothing else. Unless somebody removes it, its task ends only after the supervisor has left. Then its
callback has been called with everything that was published before the task looked last: between that
look and the next step the supervisor can take its last transitions and leave.
-/

namespace SteadyLink.Proofs

/-- The transitions that were published from the first client to the second. -/
def transitionsSince (s₁ s : Client) : List Notice := (publishedSince s₁ s).filterMap (wants none)

/-- What the owners of other hooks do, and what the tasks of these do. -/
inductive ConcernsOthers (i : Nat) : Choice → Prop
  | onState (panic : Option Panic) : ConcernsOthers i (.deed (.onState panic))
  | onError (panic : Option Panic) : ConcernsOthers i (.deed (.onError panic))
  | removes {j : Nat} (other : j ≠ i) : ConcernsOthers i (.deed (.removeHook j))
  | runs {j : Nat} (other : j ≠ i) : ConcernsOthers i (.work (.hook j))

section Silence

variable {s₁ mid s s' : Client} {i : Nat} {h : Hook} {trail before later : Trail} {choice : Choice}
variable {es : List Event}

lemma publishedSince_trans (w : Wired s₁) (j : Journey s₁ before mid) (j' : Journey mid later s) :
    publishedSince s₁ s = publishedSince s₁ mid ++ publishedSince mid s :=
  publishedSince_step w j (journey_announced (journey_wired w j) j')

lemma transitionsSince_trans (w : Wired s₁) (j : Journey s₁ before mid) (j' : Journey mid later s) :
    transitionsSince s₁ s = transitionsSince s₁ mid ++ transitionsSince mid s := by
  rw [transitionsSince, publishedSince_trans w j j', List.filterMap_append]
  rfl

/-- Only the supervisor publishes transitions. -/
lemma aired_plain (a : Aired s choice es s') (hst : stimulusOf? s choice = none) :
    es.filterMap (wants none) = [] := by
  have hplain : es.filterMap transition? = [] := by
    by_cases ht : ∃ t, choice = .work t
    · obtain ⟨t, rfl⟩ := ht
      rw [← transitions_unnumbered, a.work t rfl, taskReports_plain]
    · rw [a.rest (fun t h => ht ⟨t, h⟩) hst]
      rfl
  have hmap : es.filterMap (wants none) =
      (es.filterMap transition?).map fun t => Notice.transition t.1 t.2 := List.map_filterMap.symm
  rw [hmap, hplain, List.map_nil]

lemma exited_still (exited : s.supervisor.phase = .exited) (a : Aired s choice es s') :
    stimulusOf? s choice = none := by
  rw [Option.eq_none_iff_forall_ne_some]
  intro stimulus hst
  have hthere := turn_present a hst
  simp [Supervisor.isGone, exited] at hthere

/-- After the supervisor has left, there are no transitions any more. -/
lemma exited_silent (w : Wired s₁) (exited : s₁.supervisor.phase = .exited)
    (j : Journey s₁ trail s) : s.supervisor.phase = .exited ∧ transitionsSince s₁ s = [] := by
  induction j with
  | start =>
    refine ⟨exited, ?_⟩
    rw [transitionsSince, publishedSince_refl]
    rfl
  | @step trail s s' choice past taken ih =>
    obtain ⟨hexited, hnone⟩ := ih
    obtain ⟨es, a⟩ := next_aired (journey_wired w past) taken
    have hst := exited_still hexited a
    refine ⟨(a.still hst).1 ▸ hexited, ?_⟩
    rw [transitionsSince, publishedSince_step w past a.hub.announced, List.filterMap_append,
      aired_plain a hst, List.append_nil]
    exact hnone

lemma noticesSince_transitions (hnone : receiverOf? h = none) :
    noticesSince s₁ h s = transitionsSince s₁ s := by
  rw [noticesSince, hnone]
  rfl

/-- Other hooks are no matter. -/
lemma others_apart (w : Wired s) (hi : i < s.hooks.length) (others : ConcernsOthers i choice)
    (taken : next? s choice = some s') :
    s'.hooks[i]? = s.hooks[i]? ∧ noticed s'.hub i = noticed s.hub i := by
  obtain ⟨es, a⟩ := next_aired w taken
  have hquiet : runner? choice ≠ some i ∧ removed? choice ≠ some i ∧ es = [] := by
    cases others with
    | onState panic => exact ⟨by simp [runner?], by simp [removed?], a.rest (by simp) rfl⟩
    | onError panic => exact ⟨by simp [runner?], by simp [removed?], a.rest (by simp) rfl⟩
    | removes other => exact ⟨by simp [runner?], by simpa [removed?] using other, a.rest (by simp) rfl⟩
    | runs other =>
      exact ⟨by simpa [runner?] using other, by simp [removed?], List.map_eq_nil_iff.mp (a.work _ rfl)⟩
  obtain ⟨hrunner, hremoved, rfl⟩ := hquiet
  refine ⟨?_, a.hub.noticed i hrunner⟩
  rw [a.hooks i hi hrunner]
  cases s.hooks[i]? with
  | none => rfl
  | some h =>
    have hremoval : (decide (removed? choice = some i)) = false := by simpa using hremoved
    rw [Option.map_some, hremoval, overheard_quiet h [] rfl]

end Silence

/-- What the callback of a hook is called with, which was registered in the first client. -/
structure StateHookLaw (s₁ : Client) (i : Nat) (trail : Trail) (s : Client) : Prop where
  there : ∃ h, s.hooks[i]? = some h
  /-- The calls are the transitions since the registration, from the first one on. -/
  inOrder : noticed s.hub i <+: transitionsSince s₁ s
  /-- What the callback was not called with yet, its task still has. -/
  kept : ∀ h, s.hooks[i]? = some h → h.running = true →
    noticed s.hub i ++ awaiting s h = transitionsSince s₁ s
  /-- Unless the hook was removed, it has ended after the supervisor only, and was called with all that
  was published before its task looked last; so it was called with everything if and only if nothing was
  published between that look and the next step of the task. -/
  complete : ∀ h, s.hooks[i]? = some h → h.running = false →
    (∀ m ∈ trail, removed? m.choice ≠ some i) → ∃ before gap after found mid,
      trail = before ++ gap ++ ⟨mid, .work (.hook i)⟩ :: after ∧ Journey s₁ before found ∧
        LastLook i found gap mid ∧ mid.supervisor.phase = .exited ∧ s.supervisor.phase = .exited ∧
        noticed s.hub i = transitionsSince s₁ found ∧
        (noticed s.hub i = transitionsSince s₁ s ↔ transitionsSince found mid = [])
  /-- After the supervisor the task does come to its end, if only it runs; and with everything, if it was
  not about to end when the supervisor left. -/
  ends : ∀ h, s.hooks[i]? = some h → h.running = true → s.supervisor.phase = .exited →
    ∃ later s' h', RunsOut s i later s' h' ∧
      (h.pass ≠ .checking → noticed s'.hub i = transitionsSince s₁ s')
  /-- Registering, removing and running other hooks makes no difference. -/
  apart : ∀ choice s', ConcernsOthers i choice → next? s choice = some s' →
    s'.hooks[i]? = s.hooks[i]? ∧ noticed s'.hub i = noticed s.hub i

/-- A hook for transitions that nobody has called yet obeys the law. -/
theorem state_hook_law {s₁ s : Client} {i : Nat} {h₁ : Hook} {trail : Trail} (w : Wired s₁)
    (hh : s₁.hooks[i]? = some h₁) (source : h₁.source = .transitions [])
    (reading : h₁.pass = .reading) (running : h₁.running = true) (kept : h₁.removed = false)
    (uncalled : noticed s₁.hub i = []) (j : Journey s₁ trail s) :
    StateHookLaw s₁ i trail s := by
  have hnone : receiverOf? h₁ = none := by rw [receiverOf?, source]
  have hempty : awaiting s₁ h₁ = [] := awaiting_transitions s₁ source
  have hattached : Attached s₁ h₁ := by
    intro _ id hid
    rw [hnone] at hid
    cases hid
  have hwhole {trail : Trail} {s : Client} {h : Hook} (v : Serving s₁ i h₁ trail s h) :
      noticed s.hub i ++ awaiting s h = transitionsSince s₁ s := by
    rw [v.whole (Or.inl hnone), uncalled, hempty, noticesSince_transitions hnone]
    rfl
  have w' := journey_wired w j
  cases hook_fate w hh hattached running j with
  | @serves _ _ h v looked =>
    have honly (g : Hook) (hg : s.hooks[i]? = some g) : g = h :=
      Option.some.inj (hg.symm.trans v.hook)
    obtain ⟨hlt, -⟩ := List.getElem?_eq_some_iff.mp v.hook
    constructor
    · exact ⟨h, v.hook⟩
    · exact ⟨awaiting s h, hwhole v⟩
    · intro g hg _
      rw [honly g hg]
      exact hwhole v
    · intro g hg hstopped
      rw [honly g hg, v.running] at hstopped
      cases hstopped
    · intro g hg _ exited
      have hshutdown : s.shutdown = true := w'.ended.mpr exited
      obtain ⟨later, s', h', out, hnoticed⟩ :=
        hook_drains w' v.hook v.attached v.running (Or.inr hshutdown)
      refine ⟨later, s', h', out, fun away => ?_⟩
      rw [transitionsSince_trans w j out.journey, (exited_silent w' exited out.journey).2,
        List.append_nil, hnoticed (honly g hg ▸ away)]
      exact hwhole v
    · exact fun choice s' others taken => others_apart w' hlt others taken
  | @ended before gap after found mid _ g h h' v idle look last cause later hook stopped silent =>
    have honly (g : Hook) (hg : s.hooks[i]? = some g) : g = h' :=
      Option.some.inj (hg.symm.trans hook)
    obtain ⟨hlt, -⟩ := List.getElem?_eq_some_iff.mp hook
    have wfound := journey_wired w v.journey
    have hcalls : noticed s.hub i = transitionsSince s₁ found := by
      rw [silent, ← hwhole v, idle, List.append_nil]
    have hsplit : transitionsSince s₁ s =
        transitionsSince s₁ found ++ (transitionsSince found mid ++ transitionsSince mid s) := by
      rw [transitionsSince_trans w v.journey (journey_append look.journey later),
        transitionsSince_trans wfound look.journey later]
    constructor
    · exact ⟨h', hook⟩
    · rw [hcalls, hsplit]
      exact List.prefix_append _ _
    · intro g hg hrunning
      rw [honly g hg, stopped] at hrunning
      cases hrunning
    · intro _ _ _ hnever
      have hmid : mid.supervisor.phase = .exited :=
        serving_exited w last kept (fun m hm => hnever m (List.mem_append_left _ hm)) cause
      obtain ⟨hexited, hquiet⟩ := exited_silent (journey_wired wfound look.journey) hmid later
      refine ⟨before, gap, after, found, mid, rfl, v.journey, look, hmid, hexited, hcalls, ?_⟩
      rw [hcalls, hsplit, hquiet, List.append_nil]
      exact List.self_eq_append_right
    · intro g hg hrunning
      rw [honly g hg, stopped] at hrunning
      cases hrunning
    · exact fun choice s' others taken => others_apart w' hlt others taken
  | left looked => cases reading.symm.trans looked.checking

/-- A hook for transitions loses nothing, from its registration on until it looks last. -/
theorem state_hooks_complete {c : Config} {observers : List Observer} {past trail : Trail}
    {s₁ s : Client} {panic : Option Panic} (before : Journey (.fresh c observers) past s₁)
    (held : s₁.hub.handles ≠ 0) (j : Journey (act s₁ (.onState panic)) trail s) :
    StateHookLaw (act s₁ (.onState panic)) s₁.hooks.length trail s := by
  have w₁ := journey_wired (fresh_wired c observers) before
  have hregistered : act s₁ (.onState panic) = (s₁.onState panic).2 := if_neg held
  have w : Wired (act s₁ (.onState panic)) :=
    wired_aired w₁ rfl (aired_deed s₁ (.onState panic))
  have hh : (act s₁ (.onState panic)).hooks[s₁.hooks.length]? =
      some ⟨.transitions [], .reading, false, true, panic⟩ := by
    rw [hregistered]
    exact List.getElem?_concat_length
  refine state_hook_law w hh rfl rfl rfl rfl ?_ j
  rw [hregistered]
  exact w₁.unheard _ (Nat.le_refl _)

/-- The callback panics on each of three transitions. Its task runs only after all handles are gone and
the supervisor has left. -/
theorem state_hooks_complete_late : ∃ past trail s₁ s,
    Journey (.fresh .standard []) past s₁ ∧ s₁.hub.handles ≠ 0 ∧
      Journey (act s₁ (.onState (some .other))) trail s ∧
      StateHookLaw (act s₁ (.onState (some .other))) s₁.hooks.length trail s ∧
      s.hooks.map Hook.running = [false] ∧
      noticed s.hub 0 = [.transition .idle .connecting, .transition .connecting .closing,
        .transition .closing .terminal] := by
  have before : Journey (.fresh .standard []) [] (.fresh .standard []) := .start
  have held : (Client.fresh .standard []).hub.handles ≠ 0 := by decide
  have j₀ : Journey (act (.fresh .standard []) (.onState (some .other))) [] _ := .start
  have j₁ := j₀.step (.deed (.call .start)) rfl
  have j₂ := j₁.step (.take 0) rfl
  have j₃ := j₂.step (.deed .dropHandle) rfl
  have j₄ := j₃.step (.take 0) rfl
  have j₅ := j₄.step (.work (.hook 0)) rfl
  have j₆ := j₅.step (.work (.hook 0)) rfl
  have j₇ := j₆.step (.work (.hook 0)) rfl
  have j₈ := j₇.step (.work (.hook 0)) rfl
  have j₉ := j₈.step (.work (.hook 0)) rfl
  exact ⟨_, _, _, _, before, held, j₉, state_hooks_complete before held j₉, rfl, rfl⟩

/-- The task of a hook finds nothing; before it looks whether it shall end, the last handle is dropped and
the supervisor leaves. The hook was never removed, and misses both transitions of the shutdown. -/
theorem state_hooks_complete_missed : ∃ past trail s₁ s,
    Journey (.fresh .standard []) past s₁ ∧ s₁.hub.handles ≠ 0 ∧
      Journey (act s₁ (.onState none)) trail s ∧ (∀ m ∈ trail, removed? m.choice ≠ some 0) ∧
      s.supervisor.phase = .exited ∧ s.hooks.map Hook.running = [false] ∧
      noticed s.hub 0 = [.transition .idle .connecting] ∧
      transitionsSince (act s₁ (.onState none)) s = [.transition .idle .connecting,
        .transition .connecting .closing, .transition .closing .terminal] := by
  have before : Journey (.fresh .standard []) [] (.fresh .standard []) := .start
  have j₀ : Journey (act (.fresh .standard []) (.onState none)) [] _ := .start
  have j₁ := j₀.step (.deed (.call .start)) rfl
  have j₂ := j₁.step (.take 0) rfl
  have j₃ := j₂.step (.work (.hook 0)) rfl
  have j₄ := j₃.step (.work (.hook 0)) rfl
  have j₅ := j₄.step (.deed .dropHandle) rfl
  have j₆ := j₅.step (.take 0) rfl
  have j₇ := j₆.step (.work (.hook 0)) rfl
  exact ⟨_, _, _, _, before, by decide, j₇, by simp [removed?], rfl, rfl, rfl, rfl⟩

end SteadyLink.Proofs
