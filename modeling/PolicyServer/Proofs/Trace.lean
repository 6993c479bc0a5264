/-! What is seen of a course of acts, and what holds of it from its start to its end. -/

namespace PolicyServer

/-- What is seen of some acts, in their order; each of them is looked at where it happens. -/
def trace (act : σ → α → σ) (see : σ → α → List β) : σ → List α → List β
  | _, [] => []
  | s, first :: rest => see s first ++ trace act see (act s first) rest

variable {act : σ → α → σ} {see : σ → α → List β}

theorem trace_append (s : σ) (before after : List α) :
    trace act see s (before ++ after) =
      trace act see s before ++ trace act see (before.foldl act s) after := by
  induction before generalizing s with
  | nil => rfl
  | cons first rest ih => simp only [List.cons_append, trace, List.foldl_cons, ih, List.append_assoc]

theorem trace_induction (holds : σ → List β → Prop) (kind : α → Prop)
    (kept : ∀ {s : σ} {log : List β} {next : α}, kind next → holds s log →
      holds (act s next) (log ++ see s next))
    {s : σ} {log : List β} (start : holds s log) {acts : List α} (ours : ∀ next ∈ acts, kind next) :
    holds (acts.foldl act s) (log ++ trace act see s acts) := by
  -- Each act appends what is seen of it, so what was seen before stays quantified over.
  induction acts generalizing s log with
  | nil => simpa [trace] using start
  | cons first rest ih =>
    have next := kept (ours first List.mem_cons_self) start
    have done := ih next fun other member => ours other (List.mem_cons_of_mem _ member)
    rw [List.append_assoc] at done
    exact done

end PolicyServer
