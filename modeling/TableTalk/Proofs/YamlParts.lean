import TableTalk.Proofs.Outcomes
import TableTalk.Yaml.Layout

/-!
# TableTalk.Proofs.YamlParts

How the parts of a YAML text go wrong: never by an error that refuses a text.

Main result: `sound_tokensOf`. A part that goes wrong is kept among the other parts, so that this is
an invariant of the layout: one lemma for each way to push a part, and an induction on the steps.
-/

namespace TableTalk.Yaml

@[simp] theorem spares_ofOption {α : Type} (o : Option α) : Spares (Scan.ofOption o) := by
  cases o <;> simp [Scan.ofOption]

theorem yields_ofOption {α : Type} {o : Option α} {good : α → Prop}
    (found : ∀ a, o = some a → good a) : Yields (Scan.ofOption o) good := by
  cases o with
  | none => exact .error rfl _
  | some a => exact .ok (found a rfl)

namespace Quoted

@[simp] theorem spares_readEscape (c : Cursor) : Spares (readEscape c) := by
  unfold readEscape
  simp only [spares_bind, spares_ofOption, true_and]
  intro e _
  split <;> simp

@[simp] theorem spares_readChars (double : Bool) (fuel : Nat) (c : Cursor) :
    Spares (readChars double fuel c) := by
  induction fuel generalizing c with
  | zero => simp [readChars]
  | succ fuel ih => simp [readChars, ih]

theorem spares_read (double : Bool) (c : Cursor) : Spares (read double c) := by
  simp [read]

end Quoted

/-! ### Parts that are sound -/

/-- A part that does not go wrong by the refusal of a text. -/
def Token.IsSound : Token → Prop
  | .broken e => e.isRefusal = false
  | _ => True

namespace Token

-- What is read here is a tag in all four cases, whatever stands in it.
theorem isSound_readTag {c c' : Cursor} {t : Token} (read : readTag c = some (t, c')) :
    t.IsSound := by
  unfold readTag at read
  simp only [Option.pure_def, Option.bind_eq_bind, Option.bind_some, Option.bind_none] at read
  split at read
  next =>
    simp only [Option.bind_eq_some_iff, Option.ite_none_right_eq_some, Option.some.injEq,
      Prod.mk.injEq] at read
    obtain ⟨_, -, -, -, rfl, -⟩ := read
    trivial
  next =>
    split at read
    next =>
      obtain ⟨-, rfl, -⟩ : _ ∧ tag none "!" = t ∧ _ := by simpa using read
      trivial
    next =>
      split at read
      next =>
        simp only [Option.bind_eq_some_iff, Option.ite_none_right_eq_some, Option.some.injEq,
          Prod.mk.injEq] at read
        obtain ⟨_, -, _, -, -, rfl, -⟩ := read
        trivial
      next =>
        simp only [Option.bind_eq_some_iff, Option.ite_none_right_eq_some, Option.some.injEq,
          Prod.mk.injEq] at read
        obtain ⟨_, -, -, rfl, -⟩ := read
        trivial

theorem isSound_readDirective {c c' : Cursor} {t : Token} (read : readDirective c = some (t, c')) :
    t.IsSound := by
  -- All kinds of directives close alike.
  have closed {x : Option (Directive × Cursor)}
      (last : (x.bind fun y => y.2.skipEmptyRest?.bind fun r =>
        pure (directive y.1, r.skipBreak)) = some (t, c')) : t.IsSound := by
    simp only [Option.bind_eq_some_iff, Option.pure_def, Option.some.injEq, Prod.mk.injEq] at last
    obtain ⟨_, -, _, -, rfl, -⟩ := last
    trivial
  simp only [readDirective, Option.bind_eq_bind, Option.bind_eq_some_iff, Prod.exists] at read
  obtain ⟨_, _, -, found⟩ := read
  repeat' split at found
  · simp at found
  · exact closed found
  · exact closed found
  · exact closed found

end Token

/-- Parts of which none goes wrong by the refusal of a text. -/
def AllSound (tokens : Array Token) : Prop :=
  ∀ t ∈ tokens, t.IsSound

variable {tokens : Array Token} {t : Token}

theorem AllSound.push (sound : AllSound tokens) (here : t.IsSound) : AllSound (tokens.push t) := by
  intro u mem
  rcases Array.mem_push.mp mem with old | rfl
  · exact sound u old
  · exact here

theorem AllSound.insert (sound : AllSound tokens) (here : t.IsSound) (position : Nat) :
    AllSound (tokens.insertIdxIfInBounds position t) := by
  intro u mem
  unfold Array.insertIdxIfInBounds at mem
  split at mem
  · rcases Array.mem_insertIdx.mp mem with rfl | old
    · exact here
    · exact sound u old
  · exact sound u mem

namespace Layout

def Sound (l : Layout) : Prop :=
  AllSound l.tokens

variable {l : Layout}

theorem Sound.push (sound : l.Sound) (here : t.IsSound) : (l.push t).Sound :=
  AllSound.push sound here

theorem Sound.unwind (sound : l.Sound) (stays : Nat → Bool) : (l.unwind stays).Sound := by
  unfold Layout.unwind
  split
  · exact sound
  · intro u mem
    rcases Array.mem_append.mp mem with old | ended
    · exact sound u old
    · obtain ⟨-, rfl⟩ := Array.mem_replicate.mp ended
      trivial

theorem Sound.moved (sound : l.Sound) (place : Cursor) : (l.moved place).Sound :=
  sound

theorem Sound.pushMark (sound : l.Sound) (here : t.IsSound) : (l.pushMark t).Sound :=
  (sound.push here).moved _

theorem tokens_indent (l : Layout) (column : Nat) : (l.indent column).1.tokens = l.tokens := by
  unfold indent
  split <;> rfl

theorem Sound.indent (sound : l.Sound) (column : Nat) : (l.indent column).1.Sound := by
  rw [Sound, tokens_indent]
  exact sound

theorem Sound.openBlock (sound : l.Sound) (here : t.IsSound) : (l.openBlock t).Sound := by
  have indented := sound.indent l.place.column
  unfold Layout.openBlock
  split
  next started =>
    rw [started] at indented
    exact indented.push here
  next started =>
    rw [started] at indented
    exact indented

theorem Sound.skipBlank (sound : l.Sound) (fuel : Nat) : (skipBlank fuel l).Sound := by
  induction fuel generalizing l with
  | zero => exact sound
  | succ fuel ih =>
    rw [Layout.skipBlank]
    split
    · exact sound
    · exact ih sound

/-! ### Steps -/

theorem spares_expire (c : Cursor) (start : Option KeyStart) : Spares (expire c start) := by
  unfold expire
  split <;> simp

theorem yields_dropExpired (sound : l.Sound) : Yields l.dropExpired Sound := by
  refine (spares_expire _ _).bind fun _ _ => ?_
  refine (spares_mapM (spares_expire _) _).bind fun _ _ => ?_
  exact .pure sound

theorem yields_dropKey (sound : l.Sound) : Yields l.dropKey Sound := by
  unfold dropKey
  split
  · exact .error rfl _
  · exact .ok sound

theorem yields_startKey (sound : l.Sound) : Yields l.startKey Sound := by
  unfold startKey
  split
  · exact (yields_dropKey sound).bind fun _ sound' => .pure sound'
  · exact .ok sound

theorem yields_pushNode {read : Cursor → Scan (Token × Cursor)}
    (reads : ∀ c, Yields (read c) (·.1.IsSound)) (sound : l.Sound) :
    Yields (l.pushNode read) Sound :=
  (yields_startKey sound).bind fun _ sound' =>
    (reads _).bind fun _ here => .pure (sound'.push here)

theorem yields_pushMarker (sound : l.Sound) (here : t.IsSound) :
    Yields (l.pushMarker t) Sound :=
  (yields_dropKey (sound.unwind _)).bind fun _ sound' => .pure (sound'.push here)

theorem yields_openFlow (sound : l.Sound) (here : t.IsSound) : Yields (l.openFlow t) Sound :=
  (yields_startKey sound).bind fun _ sound' => .pure (sound'.pushMark here)

theorem yields_closeFlow (sound : l.Sound) (here : t.IsSound) :
    Yields (l.closeFlow t) Sound := by
  refine (yields_dropKey sound).bind fun l' sound' => ?_
  split
  · exact .error rfl _
  · exact .pure (sound'.pushMark here)

theorem yields_pushEntry (sound : l.Sound) : Yields l.pushEntry Sound :=
  (yields_dropKey sound).bind fun _ sound' => .pure (sound'.pushMark trivial)

theorem yields_pushItem (sound : l.Sound) : Yields l.pushItem Sound := by
  have block : Token.IsSound .blockSequence := trivial
  unfold pushItem
  split
  · exact (yields_dropKey sound).bind fun _ sound' => .pure (sound'.pushMark trivial)
  · split
    · exact (yields_dropKey (sound.openBlock block)).bind fun _ sound' =>
        .pure (sound'.pushMark trivial)
    · exact .error rfl _

theorem yields_pushKey (sound : l.Sound) : Yields l.pushKey Sound := by
  have block : Token.IsSound .blockMapping := trivial
  unfold pushKey
  split
  · exact (yields_dropKey sound).bind fun _ sound' => .pure (sound'.pushMark trivial)
  · split
    · exact (yields_dropKey (sound.openBlock block)).bind fun _ sound' =>
        .pure (sound'.pushMark trivial)
    · exact .error rfl _

theorem yields_pushValue (sound : l.Sound) : Yields l.pushValue Sound := by
  have key : Token.IsSound .key := trivial
  have block : Token.IsSound .blockMapping := trivial
  unfold pushValue
  split
  next k _ =>
    -- The parts of a key go before those that were pushed since the key may have started.
    extract_lets l'
    have keyed : l'.Sound := AllSound.insert sound key k.position
    generalize started : (if l'.inFlow then (l', false) else l'.indent k.place.column) = indented
    obtain ⟨l'', starts⟩ := indented
    have sound'' : l''.Sound := by
      split at started
      next => exact (Prod.mk.inj started).1 ▸ keyed
      next =>
        have kept := keyed.indent k.place.column
        rw [started] at kept
        exact kept
    refine .ok (AllSound.push ?_ trivial)
    cases starts with
    | true => exact sound''.insert block _
    | false => exact sound''
  next =>
    split
    · exact .ok (sound.push trivial)
    · split
      · exact .ok ((sound.openBlock block).push trivial)
      · exact .error rfl _

theorem yields_pushBlock (sound : l.Sound) (folded : Bool) : Yields (l.pushBlock folded) Sound :=
  (yields_dropKey sound).bind fun _ sound' =>
    (spares_ofOption _).bind fun _ _ => .pure (sound'.push trivial)

theorem yields_pushQuoted (sound : l.Sound) (double : Bool) :
    Yields (l.pushQuoted double) Sound :=
  yields_pushNode (fun c => (Quoted.spares_read double c).map fun _ => trivial) sound

theorem yields_pushPlain (sound : l.Sound) : Yields l.pushPlain Sound :=
  (yields_startKey sound).bind fun _ sound' => .pure (sound'.push trivial)

theorem yields_pushDirective (sound : l.Sound) : Yields l.pushDirective Sound := by
  refine (yields_dropKey (sound.unwind _)).bind fun l' sound' => ?_
  have directive :
      Yields (Scan.ofOption (Token.readDirective l'.place.advance)) (·.1.IsSound) :=
    yields_ofOption fun _ => Token.isSound_readDirective
  exact directive.bind fun _ here => .pure (sound'.push here)

theorem yields_pushName (sound : l.Sound) {named : String → Token}
    (here : ∀ name, (named name).IsSound) : Yields (l.pushName named) Sound := by
  refine yields_pushNode (fun c => yields_ofOption fun x read => ?_) sound
  obtain ⟨⟨name, c'⟩, -, rfl⟩ := Option.map_eq_some_iff.mp read
  exact here name

-- One line for each condition of the definition, in its order.
theorem yields_pushPart (sound : l.Sound) (x : Char) : Yields (l.pushPart x) Sound :=
  .ite (yields_pushDirective sound) <|
  .ite (yields_pushMarker sound trivial) <|
  .ite (yields_pushMarker sound trivial) <|
  .ite (yields_openFlow sound trivial) <|
  .ite (yields_openFlow sound trivial) <|
  .ite (yields_closeFlow sound trivial) <|
  .ite (yields_closeFlow sound trivial) <|
  .ite (yields_pushEntry sound) <|
  .ite (yields_pushItem sound) <|
  .ite (yields_pushKey sound) <|
  .ite (yields_pushValue sound) <|
  .ite (yields_pushName sound fun _ => trivial) <|
  .ite (yields_pushName sound fun _ => trivial) <|
  .ite (yields_pushNode (fun _ => yields_ofOption fun _ => Token.isSound_readTag) sound) <|
  .ite (yields_pushBlock sound _) <|
  .ite (yields_pushQuoted sound _) <|
  .ite (yields_pushQuoted sound _) <|
  .ite (yields_pushPlain sound) (.error rfl _)

/-- A step keeps the layout sound, and its own failure is no refusal. -/
theorem yields_step (sound : l.Sound) : Yields l.step (·.1.Sound) := by
  refine (yields_dropExpired (sound.skipBlank _)).bind fun l' sound' => ?_
  have unwound := sound'.unwind (· ≤ l'.place.column)
  extract_lets l''
  split
  · exact (yields_dropKey (unwound.unwind _)).bind fun _ last => .pure last
  · exact (yields_pushPart unwound _).bind fun _ last => .pure last

theorem sound_partsBefore (sound : l.Sound) {e : Error} (spared : e.isRefusal = false) :
    ∀ t ∈ l.partsBefore e, t.IsSound := by
  intro t mem
  rcases List.mem_append.mp mem with before | here
  · exact sound t (Array.mem_toList_iff.mp (List.mem_of_mem_take before))
  · rw [List.mem_singleton.mp here]
    exact spared

theorem sound_run (sound : l.Sound) (fuel : Nat) : ∀ t ∈ run fuel l, t.IsSound := by
  induction fuel generalizing l with
  | zero => exact sound_partsBefore sound rfl
  | succ fuel ih =>
    obtain ⟨spared, kept⟩ := yields_step sound
    unfold run
    split
    next e failed => exact sound_partsBefore sound (spared e failed)
    next l' done =>
      intro t mem
      exact kept _ done t (Array.mem_toList_iff.mp mem)
    next l' going => exact ih (kept _ going)

/-- No part of a text goes wrong by the refusal of a text. -/
theorem sound_tokensOf (s : List Char) : ∀ t ∈ tokensOf s, t.IsSound :=
  sound_run (by simp [Sound, AllSound]) _

end Layout

end TableTalk.Yaml
