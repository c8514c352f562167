import SteadyLink.Proofs.StateHooks

/-!
# Removal of hooks

A hook that was removed is not silent at once. Its task looks at what waits before it looks at the
removal, so that the callback is still called with all that is published until the task finds nothing;
then the task ends, and the callback is never called again. If the task had found nothing just before the
removal, it ends without another look, and what came in between is lost.
-/

namespace SteadyLink.Proofs

/-- The callback was called with nothing that was published later than the first client. -/
def SilentSince (s₁ : Client) (i : Nat) (h₁ : Hook) (s : Client) : Prop :=
  noticed s.hub i <+: noticed s₁.hub i ++ awaiting s₁ h₁

/-- What the callback of a hook was called with when its task has ended, which has been removed in the
first client. -/
inductive LastCalls (s₁ : Client) (i : Nat) (h₁ : Hook) (trail : Trail) (s : Client) : Prop
  /-- The task has looked since. The callback was called with all that was published before the last look,
  so it was silent if and only if nothing was published for it between the removal and that look. -/
  | looks {before gap after : Trail} {found mid : Client}
      (split : trail = before ++ gap ++ ⟨mid, .work (.hook i)⟩ :: after)
      (past : Journey s₁ before found) (look : LastLook i found gap mid)
      (calls : noticed s.hub i = noticed found.hub i)
      (whole : KeepsUp i h₁ before found →
        noticed s.hub i = noticed s₁.hub i ++ awaiting s₁ h₁ ++ noticesSince s₁ h₁ found ∧
          (SilentSince s₁ i h₁ s ↔ noticesSince s₁ h₁ found = []))
  /-- The task had looked before the removal and did not look again. -/
  | looked {gap after : Trail} {mid : Client}
      (split : trail = gap ++ ⟨mid, .work (.hook i)⟩ :: after) (before : LookedBefore s₁ i h₁ gap mid)
      (calls : noticed s.hub i = noticed s₁.hub i)

/-- What the callback of a hook is called with, which has been removed in the first client. -/
structure RemovedHookLaw (s₁ : Client) (i : Nat) (h₁ : Hook) (trail : Trail) (s : Client) :
    Prop where
  /-- The callback is called with what had waited and with what was published since, if at all. -/
  inOrder : (noticed s.hub i).Sublist
    (noticed s₁.hub i ++ awaiting s₁ h₁ ++ noticesSince s₁ h₁ s)
  /-- While the task runs, all that is published for the hook is still passed on. -/
  runs : ∀ h, s.hooks[i]? = some h → h.running = true → KeepsUp i h₁ trail s →
    noticed s.hub i ++ awaiting s h = noticed s₁.hub i ++ awaiting s₁ h₁ ++ noticesSince s₁ h₁ s
  /-- The task has ended when it had found nothing. -/
  ended : ∀ h, s.hooks[i]? = some h → h.running = false → LastCalls s₁ i h₁ trail s
  /-- The task does end, if only it runs, and calls the callback with all that waits, if it was not about
  to end. -/
  ends : ∀ h, s.hooks[i]? = some h → h.running = true → ∃ later s' h', RunsOut s i later s' h' ∧
    (h.pass ≠ .checking → noticed s'.hub i = noticed s.hub i ++ awaiting s h)
  /-- After its end the callback is never called again. -/
  afterwards : ∀ h, s.hooks[i]? = some h → h.running = false → ∀ later s', Journey s later s' →
    noticed s'.hub i = noticed s.hub i

section Removal

variable {s₁ s : Client} {i : Nat} {h₁ : Hook} {trail : Trail}

lemma prefix_append_iff {α : Type} {l l' : List α} : l ++ l' <+: l ↔ l' = [] := by
  have within : l ++ l' <+: l ++ [] ↔ l' <+: [] := List.prefix_append_right_inj l
  rwa [List.append_nil, List.prefix_nil] at within

theorem removed_hook_law (w : Wired s₁) (hh : s₁.hooks[i]? = some h₁) (attached : Attached s₁ h₁)
    (running : h₁.running = true) (removed : h₁.removed = true) (j : Journey s₁ trail s) :
    RemovedHookLaw s₁ i h₁ trail s := by
  have w' := journey_wired w j
  have hover (h : Hook) (hook : s.hooks[i]? = some h) (stopped : h.running = false) (later : Trail)
      (s' : Client) (j' : Journey s later s') : noticed s'.hub i = noticed s.hub i := by
    obtain ⟨-, -, -, hsilent⟩ := stopped_journey w' hook stopped j'
    exact hsilent
  cases hook_fate w hh attached running j with
  | @serves _ _ h v =>
    have honly (g : Hook) (hg : s.hooks[i]? = some g) : g = h :=
      Option.some.inj (hg.symm.trans v.hook)
    refine ⟨?_, ?_, ?_, ?_, hover⟩
    · exact (List.sublist_append_left _ _).trans v.passed
    · intro g hg _ keeps
      rw [honly g hg]
      exact v.whole keeps
    · intro g hg hstopped
      rw [honly g hg, v.running] at hstopped
      cases hstopped
    · intro g hg _
      rw [honly g hg]
      exact hook_drains w' v.hook v.attached v.running (Or.inl (v.removed.mpr (Or.inl removed)))
  | @ended before gap after found mid _ g h h' v idle look last cause later hook stopped silent =>
    have honly (g : Hook) (hg : s.hooks[i]? = some g) : g = h' :=
      Option.some.inj (hg.symm.trans hook)
    have hfound : noticed found.hub i ++ awaiting found g = noticed s.hub i := by
      rw [idle, List.append_nil, silent]
    have hsince : noticesSince s₁ h₁ s = noticesSince s₁ h₁ found ++ noticesSince found h₁ s := by
      rw [noticesSince, publishedSince_trans w v.journey (journey_append look.journey later),
        List.filterMap_append]
      rfl
    refine ⟨?_, ?_, ?_, ?_, hover⟩
    · rw [hsince, ← List.append_assoc, ← hfound]
      exact v.passed.trans (List.sublist_append_left _ _)
    · intro g hg hrunning
      rw [honly g hg, stopped] at hrunning
      cases hrunning
    · intro _ _ _
      refine .looks rfl v.journey look silent fun keeps => ?_
      have hcalls := v.whole keeps
      rw [hfound] at hcalls
      refine ⟨hcalls, ?_⟩
      unfold SilentSince
      rw [hcalls]
      exact prefix_append_iff
    · intro g hg hrunning
      rw [honly g hg, stopped] at hrunning
      cases hrunning
  | @left gap after mid _ h' looked later hook stopped silent =>
    have honly (g : Hook) (hg : s.hooks[i]? = some g) : g = h' :=
      Option.some.inj (hg.symm.trans hook)
    refine ⟨?_, ?_, ?_, ?_, hover⟩
    · rw [silent, List.append_assoc]
      exact List.sublist_append_left _ _
    · intro g hg hrunning
      rw [honly g hg, stopped] at hrunning
      cases hrunning
    · exact fun _ _ _ => .looked rfl looked silent
    · intro g hg hrunning
      rw [honly g hg, stopped] at hrunning
      cases hrunning

end Removal

/-- A hook that was removed is passed on all that is published until its task looks last, and nothing
after that. -/
theorem removed_hooks_silent {c : Config} {observers : List Observer} {past trail : Trail}
    {s₁ s : Client} {i : Nat} {h : Hook} (before : Journey (.fresh c observers) past s₁)
    (hook : s₁.hooks[i]? = some h) (running : h.running = true)
    (j : Journey (act s₁ (.removeHook i)) trail s) :
    RemovedHookLaw (act s₁ (.removeHook i)) i { h with removed := true } trail s := by
  have w₁ := journey_wired (fresh_wired c observers) before
  have attached : Attached s₁ h :=
    journey_attached (fresh_wired c observers) (fresh_attached c observers) before i h hook
  have hh : (act s₁ (.removeHook i)).hooks[i]? = some { h with removed := true } := by
    show (s₁.hooks.modify i _)[i]? = _
    rw [List.getElem?_modify_eq, hook]
    rfl
  exact removed_hook_law (wired_aired w₁ rfl (aired_deed s₁ (.removeHook i))) hh attached running rfl j

/-- A hook is removed while a request to stop waits. The supervisor takes the request before the task of
the hook runs, and the callback is called with both transitions of the shutdown. -/
theorem removed_hooks_silent_stopped : ∃ past trail s₁ s h,
    Journey (.fresh .standard []) past s₁ ∧ s₁.hooks[0]? = some h ∧ h.running = true ∧
      Journey (act s₁ (.removeHook 0)) trail s ∧
      RemovedHookLaw (act s₁ (.removeHook 0)) 0 { h with removed := true } trail s ∧
      noticed (act s₁ (.removeHook 0)).hub 0 = [.transition .idle .connecting] ∧
      awaiting (act s₁ (.removeHook 0)) { h with removed := true } = [] ∧
      s.hooks.map Hook.running = [false] ∧
      noticed s.hub 0 = [.transition .idle .connecting, .transition .connecting .closing,
        .transition .closing .idle] := by
  have j₀ : Journey (.fresh .standard []) [] (.fresh .standard []) := .start
  have j₁ := j₀.step (.deed (.onState none)) rfl
  have j₂ := j₁.step (.deed (.call .start)) rfl
  have j₃ := j₂.step (.take 0) rfl
  have j₄ := j₃.step (.work (.hook 0)) rfl
  have before := j₄.step (.deed (.call .stop)) rfl
  have k₁ := (journey_onward before (.removeHook 0)).step (.take 0) rfl
  have k₂ := k₁.step (.work (.hook 0)) rfl
  have k₃ := k₂.step (.work (.hook 0)) rfl
  have k₄ := k₃.step (.work (.hook 0)) rfl
  have k₅ := k₄.step (.work (.hook 0)) rfl
  exact ⟨_, _, _, _, _, before, rfl, rfl, k₅, removed_hooks_silent before rfl rfl k₅, rfl, rfl, rfl, rfl⟩

end SteadyLink.Proofs
