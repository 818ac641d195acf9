import TableTalk.Proofs.YamlParts
import TableTalk.Yaml.Document

/-!
# TableTalk.Proofs.YamlNodes

How the reading of the nodes of a YAML text goes wrong: as its parts do.

Main result: `spares_ofTokens`. The readers of nodes call each other, each with one less of fuel, so
that one induction on the fuel carries them all.
-/

namespace TableTalk.Yaml.Document

/-- No part that is left goes wrong by the refusal of a text. -/
def State.Sound (s : State) : Prop :=
  ∀ t ∈ s.tokens, t.IsSound

/-- A reading that refuses no text, from parts that are sound; what it leaves of them is, too. -/
def Spared {α : Type} (m : Reading α) : Prop :=
  ∀ s : State, s.Sound → Yields (m s) (·.2.Sound)

section

variable {α β : Type} {m : Reading α}

theorem Spared.pure (a : α) : Spared (Pure.pure a) :=
  fun _ sound => .ok sound

theorem Spared.throw {e : Error} (spared : e.isRefusal = false) :
    Spared (MonadExcept.throw e : Reading α) :=
  fun _ _ => .error spared _

theorem Spared.wrong : Spared (wrong : Reading α) :=
  .throw rfl

theorem Spared.bind {f : α → Reading β} (first : Spared m) (others : ∀ a, Spared (f a)) :
    Spared (m >>= f) :=
  fun s sound => (first s sound).bind fun (a, s') sound' => others a s' sound'

theorem Spared.map {f : α → β} (first : Spared m) : Spared (f <$> m) := by
  rw [map_eq_pure_bind]
  exact first.bind fun _ => .pure _

theorem Spared.ite {p : Prop} [Decidable p] {m' : Reading α} (ifTrue : Spared m)
    (ifFalse : Spared m') : Spared (if p then m else m') := by
  split
  · exact ifTrue
  · exact ifFalse

theorem Spared.before {p : Prop} [Decidable p] {m : Reading Unit} {f : Unit → Reading β}
    (first : Spared m) (others : ∀ u, Spared (f u)) :
    Spared (if p then m >>= f else f ()) :=
  .ite (first.bind others) (others ())

theorem Spared.inspect {f : State → Reading β} (spared : ∀ s, s.Sound → Spared (f s)) :
    Spared (get >>= f) :=
  fun s sound => spared s sound s sound

theorem Spared.modify {f : State → State} (keeps : ∀ s, s.Sound → (f s).Sound) :
    Spared (modify f : Reading Unit) :=
  fun s sound => .ok (keeps s sound)

end

theorem spared_next? : Spared next? := by
  refine .inspect fun s sound => ?_
  split
  next e broken => exact .throw (sound _ (List.mem_of_head? broken))
  next => exact .pure _

theorem spared_drop : Spared drop :=
  .modify fun _ sound t mem => sound t (List.mem_of_mem_drop mem)

theorem spared_skipIf (t : Token) : Spared (skipIf t) :=
  spared_next?.bind fun _ => .ite (spared_drop.bind fun _ => .pure _) (.pure _)

theorem spared_expect (t : Token) : Spared (expect t) :=
  (spared_skipIf t).bind fun _ => .ite .wrong (.pure _)

theorem spared_fullTag (handle : Option String) (suffix : String) :
    Spared (fullTag handle suffix) := by
  cases handle with
  | none => exact .pure _
  | some h =>
    refine .inspect fun s _ => ?_
    split
    · exact .pure _
    · exact .wrong

theorem spared_anchor? : Spared anchor? := by
  refine spared_next?.bind fun t => ?_
  split
  · exact spared_drop.bind fun _ => .pure _
  · exact .pure _

theorem spared_tag? : Spared tag? := by
  refine spared_next?.bind fun t => ?_
  split
  · exact spared_drop.bind fun _ => .pure _
  · exact .pure _

theorem spared_properties : Spared properties := by
  refine spared_anchor?.bind fun first => ?_
  refine spared_tag?.bind fun tag => ?_
  extract_lets closing
  have spared (anchor : Option String) : Spared (closing anchor) := by
    unfold closing
    split
    · exact .pure _
    · exact (spared_fullTag _ _).bind fun _ => .pure _
  exact .ite (spared_anchor?.bind spared) (.bind (.pure _) spared)

theorem spared_note (p : Properties) (kind : Kind) (body : Body) : Spared (note p kind body) :=
  fun _ sound => .ok sound

theorem spared_noteCollection (p : Properties) (kind : Kind) {read : Reading Body}
    (reads : Spared read) : Spared (noteCollection p kind read) :=
  (spared_note _ _ _).bind fun _ => reads.bind fun _ =>
    .bind (.modify fun _ sound => sound) fun _ => .pure _

theorem spared_noteText (p : Properties) (plain : Bool) (codes : List Nat) :
    Spared (noteText p plain codes) :=
  spared_note _ _ _

theorem spared_noteBare (p : Properties) : Spared (noteBare p) :=
  .ite .wrong (spared_noteText _ _ _)

theorem spared_referent (name : String) : Spared (referent name) := by
  refine .inspect fun s _ => ?_
  split
  · exact .pure _
  · exact .wrong

/-- Nodes and what they are made of are read with so much fuel without refusing a text. -/
structure ReadersSpare (fuel : Nat) : Prop where
  node : ∀ room place, Spared (read fuel room place)
  content : ∀ room place p, Spared (readContent fuel room place p)
  nodeUnless : ∀ room place ends, Spared (readUnless fuel room place ends)
  items : ∀ room, Spared (readItems fuel room)
  openItems : ∀ room, Spared (readOpenItems fuel room)
  pairs : ∀ room, Spared (readPairs fuel room)
  flowItems : ∀ room first, Spared (readFlowItems fuel room first)
  flowPairs : ∀ room first, Spared (readFlowPairs fuel room first)
  flowPair : ∀ room closing, Spared (readFlowPair fuel room closing)

namespace ReadersSpare

variable {fuel : Nat}

theorem node_succ (ih : ReadersSpare fuel) (room : Nat) (place : Place) :
    Spared (read (fuel + 1) room place) := by
  rw [read]
  refine spared_next?.bind fun t => ?_
  split
  · exact spared_drop.bind fun _ => spared_referent _
  · refine spared_properties.bind fun p => ?_
    refine spared_next?.bind fun _ => ?_
    refine .inspect fun s _ => ?_
    exact .before .wrong fun _ => .before (.throw rfl) fun _ => ih.content _ _ _

theorem content_succ (ih : ReadersSpare fuel) (room : Nat) (place : Place) (p : Properties) :
    Spared (readContent (fuel + 1) room place p) := by
  rw [readContent]
  refine spared_next?.bind fun t => ?_
  split
  · exact spared_drop.bind fun _ => spared_noteText _ _ _
  · exact spared_drop.bind fun _ => spared_noteCollection _ _ (ih.flowItems _ _).map
  · exact spared_drop.bind fun _ => spared_noteCollection _ _ (ih.flowPairs _ _).map
  · exact .ite (spared_noteCollection _ _ (ih.openItems _).map) (spared_noteBare _)
  · exact .ite (spared_noteBare _)
      (spared_drop.bind fun _ => spared_noteCollection _ _ (ih.items _).map)
  · exact .ite (spared_noteBare _)
      (spared_drop.bind fun _ => spared_noteCollection _ _ (ih.pairs _).map)
  · exact spared_noteBare _

theorem nodeUnless_succ (ih : ReadersSpare fuel) (room : Nat) (place : Place) (ends : List Token) :
    Spared (readUnless (fuel + 1) room place ends) := by
  rw [readUnless]
  exact spared_next?.bind fun _ => .ite (spared_noteText _ _ _) (ih.node _ _)

theorem items_succ (ih : ReadersSpare fuel) (room : Nat) :
    Spared (readItems (fuel + 1) room) := by
  rw [readItems]
  refine (spared_skipIf _).bind fun _ => .ite ?_ ?_
  · exact (ih.nodeUnless _ _ _).bind fun _ => (ih.items _).bind fun _ => .pure _
  · exact (spared_expect _).bind fun _ => .pure _

theorem openItems_succ (ih : ReadersSpare fuel) (room : Nat) :
    Spared (readOpenItems (fuel + 1) room) := by
  rw [readOpenItems]
  refine (spared_skipIf _).bind fun _ => .ite ?_ (.pure _)
  exact (ih.nodeUnless _ _ _).bind fun _ => (ih.openItems _).bind fun _ => .pure _

theorem pairs_succ (ih : ReadersSpare fuel) (room : Nat) :
    Spared (readPairs (fuel + 1) room) := by
  rw [readPairs]
  refine (spared_skipIf _).bind fun _ => .ite ?_ ?_
  · refine (ih.nodeUnless _ _ _).bind fun key => ?_
    refine (spared_skipIf _).bind fun _ => ?_
    extract_lets others
    have spared (value : Nat) : Spared (others value) :=
      (ih.pairs _).bind fun _ => .pure _
    exact .ite ((ih.nodeUnless _ _ _).bind spared) ((spared_noteText _ _ _).bind spared)
  · exact (spared_expect _).bind fun _ => .pure _

theorem flowItems_succ (ih : ReadersSpare fuel) (room : Nat) (first : Bool) :
    Spared (readFlowItems (fuel + 1) room first) := by
  rw [readFlowItems]
  refine (spared_skipIf _).bind fun _ => .ite (.pure _) ?_
  refine .before (spared_expect _) fun _ => ?_
  refine (spared_skipIf _).bind fun _ => .ite (.pure _) ?_
  refine (spared_skipIf _).bind fun _ => .ite ?_ ?_
  · exact (spared_noteCollection _ _ (ih.flowPair _ _).map).bind fun _ =>
      (ih.flowItems _ _).bind fun _ => .pure _
  · exact (ih.node _ _).bind fun _ => (ih.flowItems _ _).bind fun _ => .pure _

theorem flowPairs_succ (ih : ReadersSpare fuel) (room : Nat) (first : Bool) :
    Spared (readFlowPairs (fuel + 1) room first) := by
  rw [readFlowPairs]
  refine (spared_skipIf _).bind fun _ => .ite (.pure _) ?_
  refine .before (spared_expect _) fun _ => ?_
  refine (spared_skipIf _).bind fun _ => .ite (.pure _) ?_
  refine (spared_skipIf _).bind fun _ => .ite ?_ ?_
  · exact (ih.flowPair _ _).bind fun _ => (ih.flowPairs _ _).bind fun _ => .pure _
  · exact (ih.node _ _).bind fun _ => (spared_noteText _ _ _).bind fun _ =>
      (ih.flowPairs _ _).bind fun _ => .pure _

theorem flowPair_succ (ih : ReadersSpare fuel) (room : Nat) (closing : Token) :
    Spared (readFlowPair (fuel + 1) room closing) := by
  rw [readFlowPair]
  refine (ih.nodeUnless _ _ _).bind fun _ => ?_
  refine (spared_skipIf _).bind fun _ => ?_
  exact .ite ((ih.nodeUnless _ _ _).bind fun _ => .pure _)
    ((spared_noteText _ _ _).bind fun _ => .pure _)

end ReadersSpare

theorem readersSpare : ∀ fuel, ReadersSpare fuel
  | 0 =>
    { node := fun _ _ => by rw [read]; exact .wrong
      content := fun _ _ _ => by rw [readContent]; exact .wrong
      nodeUnless := fun _ _ _ => by rw [readUnless]; exact .wrong
      items := fun _ => by rw [readItems]; exact .wrong
      openItems := fun _ => by rw [readOpenItems]; exact .wrong
      pairs := fun _ => by rw [readPairs]; exact .wrong
      flowItems := fun _ _ => by rw [readFlowItems]; exact .wrong
      flowPairs := fun _ _ => by rw [readFlowPairs]; exact .wrong
      flowPair := fun _ _ => by rw [readFlowPair]; exact .wrong }
  | fuel + 1 =>
    have ih := readersSpare fuel
    { node := ih.node_succ
      content := ih.content_succ
      nodeUnless := ih.nodeUnless_succ
      items := ih.items_succ
      openItems := ih.openItems_succ
      pairs := ih.pairs_succ
      flowItems := ih.flowItems_succ
      flowPairs := ih.flowPairs_succ
      flowPair := ih.flowPair_succ }

/-! ### Documents -/

theorem spared_explain (ds : List Directive) (versioned : Bool) (handles : List (String × String)) :
    Spared (explain ds versioned handles) := by
  induction ds generalizing versioned handles with
  | nil => exact .pure _
  | cons d ds ih =>
    cases d with
    | version major => exact .ite .wrong (ih _ _)
    | handle name target => exact .ite .wrong (ih _ _)
    | other => exact ih _ _

theorem spared_readDirectives : Spared readDirectives := by
  refine .inspect fun s sound => ?_
  refine (spared_explain _ _ _).bind fun handles => ?_
  refine .bind (fun _ _ => .ok fun t mem => sound t (List.mem_of_mem_drop mem)) fun _ => .pure _

theorem spared_readRoot (fuel room : Nat) : Spared (readRoot fuel room) := by
  have root := (readersSpare fuel).node room .inBlock
  refine spared_readDirectives.bind fun _ => ?_
  refine .bind (.modify fun _ sound => sound) fun _ => ?_
  refine spared_next?.bind fun _ => .ite ?_ root
  refine (spared_expect _).bind fun _ => ?_
  refine spared_next?.bind fun t => ?_
  split
  · exact spared_noteText _ _ _
  · exact spared_noteText _ _ _
  · exact spared_noteText _ _ _
  · exact spared_noteText _ _ _
  · exact root

theorem spared_expectEnd : Spared expectEnd := by
  refine .bind (.modify fun _ sound t mem => sound t (List.dropWhile_subset _ mem)) fun _ => ?_
  exact spared_readDirectives.bind fun _ => spared_next?.bind fun _ => .ite .wrong (.pure _)

/-- The nodes of parts that are sound are read without refusing a text. -/
theorem spares_ofTokens {tokens : List Token} (sound : ∀ t ∈ tokens, t.IsSound) (room : Nat) :
    Spares (ofTokens room tokens) := by
  have readAll : Spared (do
      let n ← readRoot (2 * tokens.length + 2) room
      expectEnd
      return n : Reading Nat) :=
    (spared_readRoot _ _).bind fun _ => spared_expectEnd.bind fun _ => .pure _
  unfold ofTokens
  split
  · simp
  · exact ((readAll { tokens } sound).bind fun _ _ => .pure trivial : Yields _ fun _ => True).1

end TableTalk.Yaml.Document
