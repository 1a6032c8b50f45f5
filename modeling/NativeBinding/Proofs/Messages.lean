import NativeBinding.Proofs.Lookups

/-!
Messages: what is said from one world to another, in order and whoever receives it, when nothing
but queries happens besides.
-/
namespace NativeBinding

/-- From one world to the other these messages are given, and all else that happens are queries. -/
def Saying (source : Option Serial) (said : List (LogLevel × String)) (w w' : World) : Prop :=
  ∃ es : List Event, w'.history = es.reverse ++ w.history ∧ es.filterMap Event.message? = said ∧
    ∀ e ∈ es, e.message? = none → e.IsQuery source

variable {source : Option Serial} {said said' : List (LogLevel × String)} {w w' w'' : World}

theorem Saying.refl (source : Option Serial) (w : World) : Saying source [] w w :=
  ⟨[], rfl, rfl, by simp⟩

theorem Saying.trans (h : Saying source said w w') (h' : Saying source said' w' w'') :
    Saying source (said ++ said') w w'' := by
  obtain ⟨es, hhistory, hsaid, hes⟩ := h
  obtain ⟨es', hhistory', hsaid', hes'⟩ := h'
  refine ⟨es ++ es', by simp [hhistory, hhistory'], ?_, ?_⟩
  · rw [List.filterMap_append, hsaid, hsaid']
  · intro e he
    rcases List.mem_append.mp he with he | he
    · exact hes e he
    · exact hes' e he

/-- Queries say nothing. -/
theorem Recording.silent (h : Querying source w w') : Saying source [] w w' := by
  obtain ⟨es, hhistory, -, hes⟩ := h
  refine ⟨es, hhistory, List.filterMap_eq_nil_iff.mpr ?_, fun e he _ => hes e he⟩
  intro e he
  exact (hes e he).message?_eq_none

/-- What is said after queries is all that is said. -/
theorem Saying.after_queries (h : Querying source w w') (h' : Saying source said w' w'') :
    Saying source said w w'' := h.silent.trans h'

theorem log_saying (source : Option Serial) (level : LogLevel) (text : String) (host : Host)
    (w : World) : Saying source [(level, text)] w ((log level text).run host w).2 :=
  ⟨[.message (w.handler.map Handler.name) level text], rfl, rfl, by simp [Event.message?]⟩

end NativeBinding
