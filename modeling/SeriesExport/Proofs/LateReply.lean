import SeriesExport.Proofs.World

/-!
# Replies that come too late

- `Environment.quieted` and `World.uncancelled` are the environment and the world without an abort.
- A reply is late if the abort handle has been used when it is in (`Environment.lateReply`). A handle stays used, so
  the last reply is the one to look at (`lateReply_eq_false_iff`).
-/

namespace SeriesExport

variable {σ : Type}

/-- The same server, and nobody to use the handle. -/
def Environment.quieted (env : Environment σ) : Environment σ := { env with aborts := fun _ => false }

/-- The same world, the handle not used. -/
def World.uncancelled (w : World σ) : World σ := { w with cancelled := false }

/-! ## Late replies -/

def Event.isReply : Event → Bool
  | .received _ => true
  | _ => false

theorem Event.exists_of_isReply : ∀ {e : Event}, e.isReply = true → ∃ reply, e = .received reply
  | .received reply, _ => ⟨reply, rfl⟩

/-- Whether a reply among the events comes in when the handle has been used, at the end of the history before them
(`used`) or after one of them. -/
def Environment.lateReply (env : Environment σ) : (history : List Event) → (used : Bool) → List Event → Bool
  | _, _, [] => false
  | history, used, e :: events =>
    let used := used || env.aborts (history ++ [e])
    (e.isReply && used) || env.lateReply (history ++ [e]) used events

/-- If the handle has been used before, every reply is late. -/
theorem Environment.lateReply_of_used (env : Environment σ) : ∀ {history events : List Event},
    (∃ e ∈ events, e.isReply = true) → env.lateReply history true events = true
  | _, [], ⟨_, he, _⟩ => by cases he
  | history, e :: events, ⟨e', he', hreply⟩ => by
    rw [lateReply, Bool.true_or, Bool.and_true]
    rcases List.mem_cons.mp he' with rfl | he'
    · rw [hreply, Bool.true_or]
    · rw [env.lateReply_of_used ⟨e', he', hreply⟩, Bool.or_true]

theorem Environment.lateReply_of_no_reply (env : Environment σ) : ∀ {history events : List Event} {used : Bool},
    (∀ e ∈ events, e.isReply = false) → env.lateReply history used events = false
  | _, [], _, _ => rfl
  | _, e :: events, _, h => by
    rw [lateReply, h e List.mem_cons_self, Bool.false_and, Bool.false_or]
    exact env.lateReply_of_no_reply fun e' he' => h e' (List.mem_cons_of_mem _ he')

/-- Whether the handle has been used when the events have happened. -/
def Environment.usedAfter (env : Environment σ) : (history : List Event) → (used : Bool) → List Event → Bool
  | _, used, [] => used
  | history, used, e :: events => env.usedAfter (history ++ [e]) (used || env.aborts (history ++ [e])) events

/-- Among the events is a last reply, and the handle has not been used when it is in. -/
def Environment.LastReplyInTime (env : Environment σ) (history : List Event) (used : Bool) (events : List Event) :
    Prop :=
  ∃ front reply back, events = front ++ .received reply :: back ∧ (∀ e ∈ back, e.isReply = false) ∧
    env.usedAfter history used (front ++ [.received reply]) = false

section

variable (env : Environment σ) {history events : List Event} {used : Bool}

/-- What comes before the last reply does not matter, for the handle stays used. -/
theorem Environment.lateReply_cons (e : Event) (h : ∃ e' ∈ events, e'.isReply = true) :
    env.lateReply history used (e :: events) =
      env.lateReply (history ++ [e]) (used || env.aborts (history ++ [e])) events := by
  rw [lateReply]
  cases used || env.aborts (history ++ [e]) with
  | true => rw [env.lateReply_of_used h, Bool.or_true]
  | false => rw [Bool.and_false, Bool.false_or]

theorem Environment.lastReplyInTime_cons (e : Event) (h : ∃ e' ∈ events, e'.isReply = true) :
    env.LastReplyInTime history used (e :: events) ↔
      env.LastReplyInTime (history ++ [e]) (used || env.aborts (history ++ [e])) events := by
  refine ⟨?_, ?_⟩
  · rintro ⟨front, reply, back, heq, hback, hused⟩
    cases front with
    | nil =>
      obtain ⟨-, rfl⟩ := List.cons.inj heq
      obtain ⟨e', he', hreply⟩ := h
      rw [hback e' he'] at hreply
      cases hreply
    | cons _ front =>
      obtain ⟨rfl, rfl⟩ := List.cons.inj heq
      exact ⟨front, reply, back, rfl, hback, hused⟩
  · rintro ⟨front, reply, back, rfl, hback, hused⟩
    exact ⟨e :: front, reply, back, rfl, hback, hused⟩

/-- The first reply of some events is the last if there is none after it. -/
theorem Environment.lastReplyInTime_received (reply : Reply) (h : ∀ e ∈ events, e.isReply = false) :
    env.LastReplyInTime history used (.received reply :: events) ↔
      (used || env.aborts (history ++ [.received reply])) = false := by
  refine ⟨?_, fun hused => ⟨[], reply, events, rfl, h, hused⟩⟩
  rintro ⟨front, reply', back, heq, hback, hused⟩
  cases front with
  | nil =>
    obtain ⟨hreply, -⟩ := List.cons.inj heq
    rw [← hreply] at hused
    exact hused
  | cons _ front =>
    obtain ⟨-, rfl⟩ := List.cons.inj heq
    cases h (.received reply') (List.mem_append_right _ List.mem_cons_self)

end

/-- No reply is late iff the last one is not. -/
theorem Environment.lateReply_eq_false_iff (env : Environment σ) : ∀ {history events : List Event} {used : Bool},
    (∃ e ∈ events, e.isReply = true) →
      (env.lateReply history used events = false ↔ env.LastReplyInTime history used events)
  | _, [], _, ⟨_, he, _⟩ => by cases he
  | history, e :: events, used, hreply => by
    by_cases hrest : ∃ e' ∈ events, e'.isReply = true
    · rw [env.lateReply_cons e hrest, env.lateReply_eq_false_iff hrest, env.lastReplyInTime_cons e hrest]
    · have hnone : ∀ e' ∈ events, e'.isReply = false := fun e' he' =>
        Bool.eq_false_iff.mpr fun hreply' => hrest ⟨e', he', hreply'⟩
      obtain ⟨e', he', hreply'⟩ := hreply
      rcases List.mem_cons.mp he' with rfl | he'
      · obtain ⟨reply, rfl⟩ := Event.exists_of_isReply hreply'
        rw [env.lastReplyInTime_received reply hnone, lateReply, env.lateReply_of_no_reply hnone, Bool.or_false]
        rfl
      · exact absurd ⟨e', he', hreply'⟩ hrest

end SeriesExport
