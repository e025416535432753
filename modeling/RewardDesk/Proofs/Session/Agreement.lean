import RewardDesk.Command.Router
import RewardDesk.Session.World

/-!
# Programs that agree

Nothing that a program does depends on the log. Two programs that differ only in what they say there
end alike in all surroundings and leave them alike: they agree (`Program.Agrees`). Whatever is made
of programs that agree agrees again, and notes and spans can be left out.
-/

namespace RewardDesk

variable {σ α β : Type}

/-! ## Surroundings -/

/-- The same surroundings, whatever has been said in the log. -/
structure World.Alike (w w' : World σ) : Prop where
  storage : w.storage = w'.storage
  channel : w.channel = w'.channel
  tally : w.tally = w'.tally
  idsGiven : w.idsGiven = w'.idsGiven
  timesRead : w.timesRead = w'.timesRead

namespace World.Alike

variable {w w' w'' : World σ}

theorem refl (w : World σ) : Alike w w := ⟨rfl, rfl, rfl, rfl, rfl⟩

theorem trans (h : Alike w w') (h' : Alike w' w'') : Alike w w'' where
  storage := h.storage.trans h'.storage
  channel := h.channel.trans h'.channel
  tally := h.tally.trans h'.tally
  idsGiven := h.idsGiven.trans h'.idsGiven
  timesRead := h.timesRead.trans h'.timesRead

/-- No answer depends on the log. -/
theorem answer (storage : Storage σ) (supply : Supply) (c : Call) (h : Alike w w') :
    (World.answer storage supply c w).1 = (World.answer storage supply c w').1 ∧
      Alike (World.answer storage supply c w).2 (World.answer storage supply c w').2 := by
  obtain ⟨s, channel, tally, log, ids, times⟩ := w
  obtain ⟨s', channel', tally', log', ids', times'⟩ := w'
  obtain ⟨rfl, rfl, rfl, rfl, rfl⟩ := h
  cases c with
  | _ => exact ⟨rfl, rfl, rfl, rfl, rfl, rfl⟩

end World.Alike

/-! ## Programs

To agree is an equivalence between programs that respects their composition. So the notes of a
program can be taken out one by one, wherever they stand in it. -/

/-- In all surroundings the two programs end alike, and leave them alike. -/
structure Program.Agrees (p q : Program α) : Prop where
  run : ∀ {σ : Type} (storage : Storage σ) (supply : Supply) {w w' : World σ}, w.Alike w' →
    (World.run storage supply p w).1 = (World.run storage supply q w').1 ∧
      (World.run storage supply p w).2.Alike (World.run storage supply q w').2

theorem World.run_call (storage : Storage σ) (supply : Supply) (c : Call)
    (next : c.Answer → Program α) (w : World σ) :
    run storage supply (.call c next) w =
      run storage supply (next (answer storage supply c w).1) (answer storage supply c w).2 := rfl

theorem World.run_bind (storage : Storage σ) (supply : Supply) (p : Program α) (f : α → Program β)
    (w : World σ) :
    run storage supply (p >>= f) w =
      run storage supply (f (run storage supply p w).1) (run storage supply p w).2 := by
  induction p generalizing w with
  | done a => rfl
  | call c next ih => exact ih _ _

namespace Program.Agrees

variable {p p' p'' : Program α} {f f' : α → Program β}

/-- What a program does depends on the log in no way. -/
theorem refl (p : Program α) : Agrees p p := by
  refine ⟨fun {σ} storage supply w w' h => ?_⟩
  -- Each call is answered alike, so what is left of the program is the same on both sides.
  induction p generalizing w w' with
  | done a => exact ⟨rfl, h⟩
  | call c next ih =>
    obtain ⟨hsame, halike⟩ := h.answer storage supply c
    rw [World.run_call, World.run_call, hsame]
    exact ih _ _ _ halike

theorem trans (h : Agrees p p') (h' : Agrees p' p'') : Agrees p p'' := by
  refine ⟨fun storage supply w w' halike => ?_⟩
  obtain ⟨hsame, hafter⟩ := h.run storage supply halike
  obtain ⟨hsame', hafter'⟩ := h'.run storage supply (.refl w')
  exact ⟨hsame.trans hsame', hafter.trans hafter'⟩

theorem bind (h : Agrees p p') (hnext : ∀ a, Agrees (f a) (f' a)) :
    Agrees (p >>= f) (p' >>= f') := by
  refine ⟨fun storage supply w w' halike => ?_⟩
  obtain ⟨hsame, hafter⟩ := h.run storage supply halike
  rw [World.run_bind, World.run_bind, hsame]
  exact (hnext _).run storage supply hafter

theorem log_bind (entry : Log.Entry) (p : Program α) :
    Agrees (ask (.log entry) >>= fun _ => p) p :=
  ⟨fun storage supply _ _ h => (refl p).run storage supply { h with }⟩

theorem note_bind (n : Log.Note) (p : Program α) : Agrees (note n >>= fun _ => p) p :=
  log_bind (.note n) p

theorem within (span : Log.Span) (p : Program α) : Agrees (within span p) p := by
  have hleave : Agrees (p >>= fun a => ask (.log .leave) >>= fun _ => pure a) (p >>= pure) :=
    (refl p).bind fun a => log_bind .leave (pure a)
  rw [bind_pure] at hleave
  exact (log_bind (.enter span) _).trans hleave

end Program.Agrees

/-- To dispatch a command that is unknown is to refuse it. -/
theorem Router.agrees_dispatch_unknown {r : Router} {name : String} {payload : Json}
    (hget : r.get? name = none) :
    (r.dispatch name payload).Agrees (pure (.error (.unknownCommand name))) := by
  refine (Program.Agrees.within _ _).trans ?_
  rw [hget]
  exact .note_bind _ _

end RewardDesk
