import Mathlib
import Xsd.Regex.Reader

/-!
# Reading is local

What a reader takes from the front of a text is the same whatever comes later in the text, as long
as the reader leaves something over that it has been given: it looks no further than one character
beyond what it takes.
-/

namespace Xsd.Regex.Reader

variable {α β : Type} {f : Flags}

/-- What the first reader takes from a text it takes from the front and leaves the end of the text.
If that is not empty, the second reader takes the same from a longer text, and leaves so much
more. -/
def Extends (read read' : List Char → Option (α × List Char)) : Prop :=
  ∀ ⦃cs a rest⦄, read cs = some (a, rest) → rest <:+ cs ∧
    (rest ≠ [] → ∀ more, read' (cs ++ more) = some (a, rest ++ more))

/-- Whatever is added to a text is only added to what the reader leaves of it, unless it leaves
nothing. -/
abbrev IsLocal (read : List Char → Option (α × List Char)) : Prop := Extends read read

theorem nonempty_of_suffix {cs rest : List Char} (suffix : rest <:+ cs) (further : rest ≠ []) :
    cs ≠ [] := by
  rintro rfl
  exact further (List.suffix_nil.mp suffix)

/-- Read on where another reader has stopped. -/
def andThen (read : Option (α × List Char)) (next : α → List Char → Option (β × List Char)) :
    Option (β × List Char) :=
  read.bind fun p => next p.1 p.2

namespace Extends

variable {read read' : List Char → Option (α × List Char)}

theorem pure (a : α) : IsLocal fun cs => some (a, cs) := by
  rintro cs b rest ⟨⟩
  exact ⟨List.suffix_refl cs, fun _ _ => rfl⟩

theorem andThen (h : Extends read read') {next next' : α → List Char → Option (β × List Char)}
    (h' : ∀ a, Extends (next a) (next' a)) :
    Extends (fun cs => andThen (read cs) next) fun cs => andThen (read' cs) next' := by
  intro cs b rest found
  obtain ⟨⟨a, middle⟩, first, second⟩ := Option.bind_eq_some_iff.mp found
  obtain ⟨before, forward⟩ := h first
  obtain ⟨before', forward'⟩ := h' a second
  refine ⟨before'.trans before, fun nonempty more => ?_⟩
  dsimp only
  rw [forward (nonempty_of_suffix before' nonempty) more]
  exact forward' nonempty more

theorem map (h : Extends read read') (g : α → β) :
    Extends (fun cs => (read cs).map fun p => (g p.1, p.2))
      fun cs => (read' cs).map fun p => (g p.1, p.2) := by
  simp only [Option.map_eq_bind]
  exact h.andThen fun a => .pure (g a)

theorem nothing : Extends (fun _ => (none : Option (α × List Char))) read' := by
  intro cs a rest found
  cases found

/-- What is read may depend on a value, if there is one. -/
theorem given (x : Option β) {next next' : β → List Char → Option (α × List Char)}
    (h : ∀ b, Extends (next b) (next' b)) :
    Extends (fun cs => x.bind fun b => next b cs) fun cs => x.bind fun b => next' b cs := by
  cases x with
  | none => exact .nothing
  | some b => exact h b

/-- A value that does not depend on the text. -/
theorem value (x : Option β) (g : β → α) : IsLocal fun cs => x.map fun b => (g b, cs) := by
  simp only [Option.map_eq_bind]
  exact .given x fun b => .pure (g b)

/-- What is left must not be empty. -/
theorem unlessEmpty (a : α) : IsLocal fun cs => if cs.isEmpty then none else some (a, cs) := by
  intro cs b rest found
  rcases cs with _ | ⟨c, cs⟩
  · cases found
  · cases found
    exact ⟨List.suffix_refl _, fun _ _ => rfl⟩

theorem ite {p : Prop} {_ : Decidable p} {other other' : List Char → Option (α × List Char)}
    (h : Extends read read') (h' : Extends other other') :
    Extends (fun cs => if p then read cs else other cs)
      fun cs => if p then read' cs else other' cs := by
  split
  · exact h
  · exact h'

end Extends

/-- Read after the first character, in a way that may depend on it. -/
def onAny (read : Char → List Char → Option (α × List Char)) : List Char → Option (α × List Char)
  | c :: cs => read c cs
  | [] => none

/-- Read after the character if the text begins with it, and in another way otherwise. -/
def onHead (d : Char) (read other : List Char → Option (α × List Char)) :
    List Char → Option (α × List Char)
  | c :: cs => if c = d then read cs else other (c :: cs)
  | [] => other []

/-- Read after the character if the text begins with it twice, and in another way otherwise. -/
def onPair (d : Char) (read other : List Char → Option (α × List Char)) :
    List Char → Option (α × List Char)
  | c :: c' :: cs => if c = d ∧ c' = d then read cs else other (c :: c' :: cs)
  | cs => other cs

/-- Read on where another reader has stopped, or in another way if it cannot read. -/
def orElse (read : Option (α × List Char)) (next : α → List Char → Option (β × List Char))
    (other : Option (β × List Char)) : Option (β × List Char) :=
  match read with
  | some p => next p.1 p.2
  | none => other

namespace Extends

variable {read read' other other' : List Char → Option (α × List Char)}

theorem onAny {read read' : Char → List Char → Option (α × List Char)}
    (h : ∀ c, Extends (read c) (read' c)) : Extends (onAny read) (onAny read') := by
  intro cs a rest found
  cases cs with
  | nil => cases found
  | cons c cs =>
    obtain ⟨suffix, forward⟩ := h c found
    exact ⟨suffix.trans (List.suffix_cons c cs), forward⟩

theorem onHead (d : Char) (h : Extends read read') (h' : Extends other other') :
    Extends (onHead d read other) (onHead d read' other') := by
  intro cs a rest found
  cases cs with
  | nil =>
    obtain ⟨suffix, -⟩ := h' found
    exact ⟨suffix, fun further => absurd (List.suffix_nil.mp suffix) further⟩
  | cons c cs =>
    simp only [List.cons_append, Reader.onHead] at found ⊢
    split at found
    · rename_i same
      obtain ⟨suffix, forward⟩ := h found
      refine ⟨suffix.trans (List.suffix_cons c cs), fun further more => ?_⟩
      rw [if_pos same]
      exact forward further more
    · rename_i different
      obtain ⟨suffix, forward⟩ := h' found
      refine ⟨suffix, fun further more => ?_⟩
      rw [if_neg different]
      exact forward further more

theorem onPair (d : Char) (h : Extends read read') (h' : Extends other other')
    (single : ∀ c, other [c] = none) : Extends (onPair d read other) (onPair d read' other') := by
  intro cs a rest found
  match cs with
  | [] =>
    rw [Reader.onPair.eq_2 _ _ _ _ (by simp)] at found
    obtain ⟨suffix, -⟩ := h' found
    exact ⟨suffix, fun further => absurd (List.suffix_nil.mp suffix) further⟩
  | [c] =>
    rw [Reader.onPair.eq_2 _ _ _ _ (by simp), single] at found
    cases found
  | c :: c' :: cs =>
    simp only [List.cons_append, Reader.onPair] at found ⊢
    split at found
    · rename_i same
      obtain ⟨suffix, forward⟩ := h found
      refine ⟨suffix.trans ((List.suffix_cons c' cs).trans (List.suffix_cons c _)),
        fun further more => ?_⟩
      rw [if_pos same]
      exact forward further more
    · rename_i different
      obtain ⟨suffix, forward⟩ := h' found
      refine ⟨suffix, fun further more => ?_⟩
      rw [if_neg different]
      exact forward further more

/-- Where the second way to read succeeds, it must not matter to the first one what is added. -/
theorem orElse {read : List Char → Option (α × List Char)}
    {next next' : α → List Char → Option (β × List Char)}
    {other other' : List Char → Option (β × List Char)} (h : IsLocal read)
    (h' : ∀ a, Extends (next a) (next' a)) (h'' : Extends other other')
    (stays : ∀ cs, (other cs).isSome → read cs = none → ∀ more, read (cs ++ more) = none) :
    Extends (fun cs => orElse (read cs) next (other cs))
      fun cs => orElse (read cs) next' (other' cs) := by
  intro cs b rest found
  simp only [Reader.orElse] at found ⊢
  rcases reads : read cs with _ | ⟨a, middle⟩
  · rw [reads] at found
    obtain ⟨suffix, forward⟩ := h'' found
    refine ⟨suffix, fun further more => ?_⟩
    rw [stays cs (Option.isSome_of_eq_some found) reads more]
    exact forward further more
  · rw [reads] at found
    obtain ⟨before, forward⟩ := h reads
    obtain ⟨before', forward'⟩ := h' a found
    refine ⟨before'.trans before, fun further more => ?_⟩
    rw [forward (nonempty_of_suffix before' further) more]
    exact forward' further more

end Extends

/-! ## Blanks -/

theorem suffix_skip (comment : Bool) (cs : List Char) :
    skipBlanks.skip comment cs <:+ cs := by
  induction cs generalizing comment with
  | nil => exact List.suffix_refl []
  | cons c cs ih =>
    rw [skipBlanks.skip]
    split
    · exact (ih _).trans (List.suffix_cons c cs)
    · split
      · exact (ih _).trans (List.suffix_cons c cs)
      · split
        · exact (ih _).trans (List.suffix_cons c cs)
        · exact List.suffix_refl _

theorem suffix_skipBlanks (f : Flags) (cs : List Char) : skipBlanks f cs <:+ cs := by
  unfold skipBlanks
  split
  · exact suffix_skip false cs
  · exact List.suffix_refl cs

theorem skip_append {comment : Bool} {cs : List Char} (further : skipBlanks.skip comment cs ≠ [])
    (more : List Char) :
    skipBlanks.skip comment (cs ++ more) = skipBlanks.skip comment cs ++ more := by
  induction cs generalizing comment with
  | nil => exact absurd rfl further
  | cons c cs ih =>
    rw [skipBlanks.skip] at further ⊢
    rw [List.cons_append, skipBlanks.skip]
    split
    · rename_i h
      rw [if_pos h] at further
      exact ih further
    · rename_i h
      rw [if_neg h] at further
      split
      · rename_i h'
        rw [if_pos h'] at further
        exact ih further
      · rename_i h'
        rw [if_neg h'] at further
        split
        · rename_i h''
          rw [if_pos h''] at further
          exact ih further
        · rfl

theorem skipBlanks_append {cs : List Char} (further : skipBlanks f cs ≠ []) (more : List Char) :
    skipBlanks f (cs ++ more) = skipBlanks f cs ++ more := by
  unfold skipBlanks at further ⊢
  split
  · rename_i verbose
    rw [if_pos verbose] at further
    exact skip_append further more
  · rfl

theorem skipBlanks_ahead {c : Char} {cs tail : List Char} (h : skipBlanks f cs = c :: tail)
    (more : List Char) : skipBlanks f (cs ++ more) = c :: (tail ++ more) := by
  rw [skipBlanks_append (by rw [h]; exact List.cons_ne_nil _ _), h]
  rfl

theorem isLocal_skipBlanks (a : α) : IsLocal fun cs => some (a, skipBlanks f cs) := by
  rintro cs b rest ⟨⟩
  refine ⟨suffix_skipBlanks f cs, fun nonempty more => ?_⟩
  dsimp only
  rw [skipBlanks_append nonempty]

/-- Blanks can be left out before anything is read. -/
theorem Extends.afterBlanks {read read' : List Char → Option (α × List Char)}
    (h : Extends read read') :
    Extends (fun cs => read (skipBlanks f cs)) fun cs => read' (skipBlanks f cs) :=
  (isLocal_skipBlanks ()).andThen fun _ => h

theorem isLocal_trimStart (a : α) : IsLocal fun cs => some (a, Text.trimStart cs) := by
  rintro cs b rest ⟨⟩
  refine ⟨List.dropWhile_suffix _, fun nonempty more => ?_⟩
  dsimp only
  unfold Text.trimStart at nonempty ⊢
  rw [List.dropWhile_append, if_neg (by simpa using nonempty)]

theorem isLocal_spanSkipping (wanted : Char → Bool) :
    IsLocal fun cs => some (spanSkipping f wanted cs) := by
  have span : ∀ cs comment taken rest, spanSkipping.span f wanted comment cs = (taken, rest) →
      rest <:+ cs ∧ (rest ≠ [] → ∀ more,
        spanSkipping.span f wanted comment (cs ++ more) = (taken, rest ++ more)) := by
    intro cs
    induction cs with
    | nil =>
      rintro comment taken rest ⟨⟩
      exact ⟨List.suffix_refl [], fun nonempty => absurd rfl nonempty⟩
    | cons c cs ih =>
      intro comment taken rest found
      have later {comment : Bool} {taken rest : List Char}
          (found : spanSkipping.span f wanted comment cs = (taken, rest)) :
          rest <:+ c :: cs ∧ (rest ≠ [] → ∀ more,
            spanSkipping.span f wanted comment (cs ++ more) = (taken, rest ++ more)) :=
        ⟨(ih _ _ _ found).1.trans (List.suffix_cons c cs), (ih _ _ _ found).2⟩
      rw [spanSkipping.span] at found
      simp only [List.cons_append, spanSkipping.span]
      split at found
      · rename_i h
        simp only [if_pos h]
        exact later found
      · rename_i h
        simp only [if_neg h]
        split at found
        · rename_i h'
          simp only [if_pos h']
          exact later found
        · rename_i h'
          simp only [if_neg h']
          split at found
          · rename_i h''
            simp only [if_pos h'']
            exact later found
          · rename_i h''
            simp only [if_neg h'']
            split at found
            · rename_i wants
              simp only [if_pos wants]
              obtain ⟨rfl, rfl⟩ := Prod.mk.inj found
              obtain ⟨suffix, forward⟩ := later rfl
              refine ⟨suffix, fun nonempty more => ?_⟩
              rw [forward nonempty more]
            · rename_i wants
              simp only [if_neg wants]
              obtain ⟨rfl, rfl⟩ := Prod.mk.inj found
              exact ⟨List.suffix_refl _, fun _ _ => rfl⟩
  intro cs taken rest found
  obtain ⟨suffix, forward⟩ := span cs false taken rest (Option.some.inj found)
  exact ⟨suffix, fun nonempty more => congrArg some (forward nonempty more)⟩

/-! ## Escapes -/

theorem readDigits_zero : readDigits f 0 = fun cs => some ([], cs) := by
  funext cs
  rw [readDigits.eq_1]

theorem readDigits_succ (n : Nat) : readDigits f (n + 1) = onAny fun c cs =>
    if isHexDigit c then (readDigits f n (skipBlanks f cs)).map fun p => (c :: p.1, p.2)
    else none := by
  funext cs
  cases cs <;> rfl

theorem isLocal_readDigits (n : Nat) : IsLocal (readDigits f n) := by
  induction n with
  | zero =>
    rw [readDigits_zero]
    exact .pure []
  | succ n ih =>
    rw [readDigits_succ]
    exact .onAny fun c => .ite (ih.afterBlanks.map (c :: ·)) .nothing

theorem readHex_eq (width : Nat) : readHex f width = fun cs =>
    onHead '\x7b' (fun rest => andThen (some (spanSkipping f isHexDigit rest)) fun digits =>
        onHead '\x7d' (fun rest => if digits.isEmpty then none else
          (codePoint digits).bind fun c => some (c, skipBlanks f rest)) fun _ => none)
      (fun cs => andThen (readDigits f width cs) fun digits rest => (codePoint digits).bind fun c =>
        if width = 2 && !f.unicode && 0x80 ≤ c.toNat then none else some (c, skipBlanks f rest))
      (skipBlanks f cs) := by
  funext cs
  rw [readHex]
  rcases skipBlanks f cs with _ | ⟨c, cs⟩
  · rfl
  · by_cases brace : c = '\x7b'
    · subst brace
      simp only [onHead, ↓reduceIte, andThen, Option.bind_some]
      rcases spanSkipping f isHexDigit cs with ⟨digits, _ | ⟨d, rest⟩⟩
      · rfl
      · by_cases brace : d = '\x7d'
        · subst brace
          rfl
        · simp [brace]
    · simp [onHead, andThen, brace]

theorem isLocal_readHex (width : Nat) : IsLocal (readHex f width) := by
  rw [readHex_eq]
  refine .afterBlanks (.onHead _ (.andThen (isLocal_spanSkipping _) fun digits => ?_)
    (.andThen (isLocal_readDigits width) fun digits => ?_))
  · exact .onHead _ (.ite .nothing (.given _ fun c => isLocal_skipBlanks c)) .nothing
  · exact .given _ fun c => .ite .nothing (isLocal_skipBlanks c)

theorem readProperty_eq (negated : Bool) : readProperty f negated = fun cs =>
    if !f.unicode then none else onHead '\x7b'
      (fun rest => andThen (some (spanSkipping f (· != '\x7d') rest)) fun name =>
        onAny fun _ rest => (CharSet.braced? name).bind fun s =>
          some (.set (.negateIf (negated != s.2) (foldCase f s.1)), rest))
      (onAny fun c rest => if c == '\\' then none else
        (CharSet.property? (CharSet.propertyName [c])).bind fun s =>
          some (.set (.negateIf negated (foldCase f s)), skipBlanks f rest)) (skipBlanks f cs) := by
  funext cs
  rw [readProperty]
  split
  · simp only
    rfl
  · rcases skipBlanks f cs with _ | ⟨c, cs⟩
    · rfl
    · by_cases brace : c = '\x7b'
      · subst brace
        simp only [onHead, ↓reduceIte, andThen, Option.bind_some]
        rcases spanSkipping f (· != '\x7d') cs with ⟨digits, _ | ⟨d, rest⟩⟩ <;> rfl
      · simp only [onHead, brace, ↓reduceIte]
        rfl

theorem isLocal_readProperty (negated : Bool) : IsLocal (readProperty f negated) := by
  rw [readProperty_eq]
  refine .ite .nothing (.afterBlanks (.onHead _ ?_ ?_))
  · refine .andThen (isLocal_spanSkipping _) fun name => ?_
    exact .onAny fun _ => .given _ fun s => .pure _
  · exact .onAny fun c => .ite .nothing (.given _ fun s => isLocal_skipBlanks _)

/-- What the name of a boundary is made of. -/
def isBoundaryPart (c : Char) : Bool := c.isAlpha || c == '-'

/-- The boundary of a special kind, by its name. -/
def boundary? (f : Flags) (name : List Char) : Option Look :=
  match String.ofList name with
  | "start" => some (.wordStart (words f))
  | "end" => some (.wordFinish (words f))
  | "start-half" => some (.wordStartHalf (words f))
  | "end-half" => some (.wordFinishHalf (words f))
  | _ => none

/-- The name of a boundary and the brace after it. -/
def readBoundaryName (f : Flags) (cs : List Char) : Option (Look × List Char) :=
  andThen (some (spanSkipping f isBoundaryPart cs)) fun name =>
    onHead '\x7d' (fun rest => (boundary? f name).map fun l => (l, rest)) fun _ => none

theorem isLocal_readBoundaryName : IsLocal (readBoundaryName f) :=
  .andThen (isLocal_spanSkipping _) fun _ => .onHead _ (.value _ _) .nothing

theorem readBoundary_brace (f : Flags) (cs : List Char) : readBoundary f ('\x7b' :: cs) =
    match skipBlanks f cs with
    | [] => none
    | c :: more =>
      if isBoundaryPart c then readBoundaryName f (c :: more)
      else some (.wordBoundary (words f), '\x7b' :: cs) := by
  simp only [readBoundary]
  rcases skipBlanks f cs with _ | ⟨c, tail⟩
  · rfl
  · dsimp only
    have same : (fun c => c.isAlpha || c == '-') = isBoundaryPart := rfl
    rw [readBoundaryName, andThen, Option.bind_some]
    split
    · rename_i part
      rw [if_pos (show isBoundaryPart c = true from part), same]
      rcases spanSkipping f isBoundaryPart (c :: tail) with ⟨name, _ | ⟨d, rest⟩⟩
      · rfl
      · by_cases brace : d = '\x7d'
        · subst brace
          simp only [onHead, ↓reduceIte, boundary?]
          split <;> simp_all
        · simp [onHead, brace]
    · rename_i other
      rw [if_neg (show ¬ isBoundaryPart c = true from other)]

theorem readBoundary_other {c : Char} (other : c ≠ '\x7b') (cs : List Char) :
    readBoundary f (c :: cs) = some (.wordBoundary (words f), c :: cs) := by
  simp [readBoundary, other]

theorem isLocal_readBoundary : IsLocal (readBoundary f) := by
  intro cs a rest found
  rcases cs with _ | ⟨c, cs⟩
  · cases found
    exact ⟨List.suffix_refl _, fun further => absurd rfl further⟩
  · by_cases brace : c = '\x7b'
    · subst brace
      rw [readBoundary_brace] at found
      simp only [List.cons_append, readBoundary_brace]
      split at found
      · cases found
      · rename_i c tail start
        simp only [skipBlanks_ahead start]
        split at found
        · rename_i part
          obtain ⟨suffix, forward⟩ := isLocal_readBoundaryName found
          refine ⟨suffix.trans ((start ▸ suffix_skipBlanks f cs).trans (List.suffix_cons _ cs)),
            fun further more => ?_⟩
          rw [if_pos part]
          exact forward further more
        · rename_i other
          cases found
          exact ⟨List.suffix_refl _, fun _ more => by rw [if_neg other]; rfl⟩
    · rw [readBoundary_other brace] at found
      cases found
      exact ⟨List.suffix_refl _, fun _ _ => readBoundary_other brace _⟩

theorem readEscape_eq : readEscape f = onAny fun c cs => readEscape f (c :: cs) := by
  funext cs
  cases cs <;> rfl

theorem isLocal_readEscape : IsLocal (readEscape f) := by
  rw [readEscape_eq]
  refine .onAny fun c => ?_
  simp only [readEscape]
  split
  case h_1 => exact (isLocal_readHex 2).map _
  case h_2 => exact (isLocal_readHex 4).map _
  case h_3 => exact (isLocal_readHex 8).map _
  case h_4 => exact isLocal_readProperty false
  case h_5 => exact isLocal_readProperty true
  case h_20 => exact isLocal_readBoundary.map _
  case h_24 => exact .ite (.pure _) .nothing
  all_goals first | exact .pure _ | exact .value _ _

/-! ## Classes between colons -/

theorem isLocal_cutList (mark : Char) : IsLocal (Text.cutList mark) := by
  intro cs a rest found
  induction cs generalizing a with
  | nil => cases found
  | cons c cs ih =>
    rw [Text.cutList] at found
    split at found
    · rename_i here
      cases found
      exact ⟨List.suffix_cons c _, fun _ _ => if_pos here⟩
    · rename_i other
      obtain ⟨⟨before, last⟩, cut, same⟩ := Option.map_eq_some_iff.mp found
      cases same
      obtain ⟨suffix, forward⟩ := ih cut
      refine ⟨suffix.trans (List.suffix_cons c cs), fun further more => ?_⟩
      rw [List.cons_append, Text.cutList, if_neg other, forward further more, Option.map_some]

/-- The name of a class between colons, and the bracket after it. -/
def readAsciiName (negated : Bool) (cs : List Char) : Option ((CharSet × Bool) × List Char) :=
  andThen (Text.cutList ':' cs) fun name =>
    onHead ']' (fun rest => (CharSet.ascii? (String.ofList name)).map fun s => ((s, negated), rest))
      fun _ => none

theorem isLocal_readAsciiName (negated : Bool) : IsLocal (readAsciiName negated) :=
  .andThen (isLocal_cutList ':') fun _ => .onHead _ (.value _ _) .nothing

theorem readAsciiClass_eq : readAsciiClass =
    onHead ':' (onHead '^' (readAsciiName true) (readAsciiName false)) fun _ => none := by
  funext cs
  rcases cs with _ | ⟨c, cs⟩
  · rfl
  by_cases colon : c = ':'
  · subst colon
    rcases cs with _ | ⟨d, cs⟩
    · rfl
    by_cases caret : d = '^'
    on_goal 1 => subst caret
    -- With or without a caret, a name follows.
    all_goals
      simp only [readAsciiClass, onHead, *, ↓reduceIte, readAsciiName, andThen, List.cons.injEq,
        false_and, imp_self, implies_true]
      generalize Text.cutList ':' _ = cut
      rcases cut with _ | ⟨name, _ | ⟨e, rest⟩⟩
      · rfl
      · rfl
      · by_cases bracket : e = ']'
        · subst bracket
          rfl
        · simp [bracket]
  · simp [readAsciiClass, onHead, colon]

theorem isLocal_readAsciiClass : IsLocal readAsciiClass := by
  rw [readAsciiClass_eq]
  exact .onHead _ (.onHead _ (isLocal_readAsciiName true) (isLocal_readAsciiName false)) .nothing

/-- The name of no class between colons holds a bracket. -/
theorem ascii?_of_mem {name : List Char} (mem : ']' ∈ name) :
    CharSet.ascii? (String.ofList name) = none := by
  unfold CharSet.ascii?
  split
  all_goals first
    | rfl
    | (rename_i same
       rw [← String.toList_inj, String.toList_ofList] at same
       subst same
       revert mem
       decide)

theorem readAsciiName_append {negated : Bool} {cs : List Char} (mem : ']' ∈ cs)
    (unread : readAsciiName negated cs = none) (more : List Char) :
    readAsciiName negated (cs ++ more) = none := by
  have refused {name : List Char} (mem : ']' ∈ name) (rest : List Char) : onHead ']'
      (fun rest => (CharSet.ascii? (String.ofList name)).map fun s => ((s, negated), rest))
      (fun _ => none) rest = none := by
    rw [ascii?_of_mem mem]
    rcases rest with _ | ⟨c, rest⟩
    · rfl
    · simp [onHead]
  -- The name ends at the first colon. If that is behind the bracket it is no name; if it is before,
  -- what follows it is there already.
  rcases cut : Text.cutList ':' (cs ++ more) with _ | ⟨name, rest⟩
  · rw [readAsciiName, cut]
    rfl
  · rw [readAsciiName, cut]
    by_cases inside : ']' ∈ name
    · exact refused inside rest
    · obtain ⟨whole, free⟩ := Text.eq_append_of_cutList cut
      obtain ⟨after, rfl, rest_eq⟩ : ∃ after, cs = name ++ ':' :: after ∧ rest = after ++ more := by
        rcases List.append_eq_append_iff.mp whole with ⟨after, same, -⟩ | ⟨after, rfl, same⟩
        · exact absurd (same ▸ List.mem_append_left _ mem) inside
        · rcases after with _ | ⟨c, after⟩
          · rw [List.append_nil] at mem
            exact absurd mem inside
          · obtain ⟨rfl, rfl⟩ := List.cons.inj same
            exact ⟨after, rfl, rfl⟩
      rw [readAsciiName, Text.cutList_append free] at unread
      have beyond : ']' ∈ after := by simpa [inside] using mem
      rcases after with _ | ⟨c, after⟩
      · cases beyond
      · subst rest_eq
        simp only [andThen, Option.bind_some, List.cons_append, onHead] at unread ⊢
        split
        · rename_i bracket
          rw [if_pos bracket, Option.map_eq_none_iff] at unread
          rw [unread]
          rfl
        · rfl

theorem readAsciiClass_append {cs : List Char} (mem : ']' ∈ cs) (unread : readAsciiClass cs = none)
    (more : List Char) : readAsciiClass (cs ++ more) = none := by
  rw [readAsciiClass_eq] at unread ⊢
  rcases cs with _ | ⟨c, cs⟩
  · cases mem
  · simp only [List.cons_append, onHead] at unread ⊢
    split
    · rename_i colon
      subst colon
      rw [if_pos rfl] at unread
      have mem : ']' ∈ cs := by simpa using mem
      rcases cs with _ | ⟨d, cs⟩
      · cases mem
      · simp only [List.cons_append] at unread ⊢
        split
        · rename_i caret
          subst caret
          exact readAsciiName_append (by simpa using mem) unread more
        · rename_i other
          rw [if_neg other] at unread
          exact readAsciiName_append mem unread more
    · rfl

/-! ## Ranges -/

theorem readItem_eq : readItem f =
    onHead '\\' (readEscape f) (onAny fun c cs => some (.literal c, cs)) := by
  funext cs
  rcases cs with _ | ⟨c, cs⟩
  · rfl
  · by_cases backslash : c = '\\'
    · subst backslash
      rfl
    · simp [readItem, onHead, onAny, backslash]

theorem isLocal_readItem : IsLocal (readItem f) := by
  rw [readItem_eq]
  exact .onHead _ isLocal_readEscape (.onAny fun c => .pure _)

theorem trimStart_append {cs : List Char} (further : Text.trimStart cs ≠ []) (more : List Char) :
    Text.trimStart (cs ++ more) = Text.trimStart cs ++ more :=
  congrArg Prod.snd (Option.some.inj ((isLocal_trimStart () rfl).2 further more))

theorem skip_of_blanks {cs : List Char} (blanks : Text.trimStart cs = []) (comment : Bool) :
    skipBlanks.skip comment cs = [] := by
  rw [Text.trimStart, List.dropWhile_eq_nil_iff] at blanks
  induction cs generalizing comment with
  | nil => rfl
  | cons c cs ih =>
    obtain ⟨blank, blanks⟩ := List.forall_mem_cons.mp blanks
    rw [skipBlanks.skip]
    simp only [blank, ↓reduceIte]
    split
    · exact ih blanks _
    · split <;> exact ih blanks _

/-- Blanks before a number sign do not count. -/
theorem skip_trimStart (cs : List Char) :
    skipBlanks.skip false cs = skipBlanks.skip false (Text.trimStart cs) := by
  induction cs with
  | nil => rfl
  | cons c cs ih =>
    cases blank : Text.isBlank c with
    | false => rw [Text.trimStart, List.dropWhile_cons_of_neg (by simp [blank])]
    | true =>
      rw [Text.trimStart, List.dropWhile_cons_of_pos blank, ← Text.trimStart, ← ih,
        skipBlanks.skip, if_neg Bool.false_ne_true]
      have sign : (c == '#') = false := by
        rw [beq_eq_false_iff_ne]
        rintro rfl
        cases blank
      rw [if_neg (by simp [sign]), if_pos blank]

/-- If anything but blanks and comments follows a hyphen, it is decided. -/
theorem afterHyphen_append {cs : List Char} (further : skipBlanks f cs ≠ []) (more : List Char) :
    afterHyphen f (cs ++ more) = afterHyphen f cs := by
  unfold afterHyphen
  unfold skipBlanks at further
  cases verbose : f.verbose with
  | false =>
    rw [verbose] at further
    exact List.head?_append_of_ne_nil _ further
  | true =>
    simp only [verbose, Bool.not_true, ↓reduceIte, Bool.false_eq_true] at further ⊢
    have solid : Text.trimStart cs ≠ [] := fun blanks => further (skip_of_blanks blanks _)
    rw [trimStart_append solid]
    rw [skip_trimStart] at further
    rcases trimmed : Text.trimStart cs with _ | ⟨c, tail⟩
    · exact absurd trimmed solid
    · by_cases sign : c = '#'
      · subst sign
        rw [trimmed] at further
        have solid : Text.trimStart tail ≠ [] := fun blanks => further (skip_of_blanks blanks true)
        simp only [List.cons_append, trimStart_append solid]
        rw [List.head?_append_of_ne_nil _ solid]
        obtain ⟨d, last, same⟩ := List.exists_cons_of_ne_nil solid
        rw [same]
        rfl
      · simp

theorem trimStart_of_head {cs : List Char} {c : Char} (head : cs.head? = some c)
    (solid : Text.isBlank c = false) : Text.trimStart cs = cs := by
  obtain ⟨tail, rfl⟩ := List.head?_eq_some_iff.mp head
  exact List.dropWhile_cons_of_neg (by simp [solid])

/-- So it is if a character follows that is no blank and does not begin a comment. -/
theorem afterHyphen_ahead {cs : List Char} {c : Char} (next : afterHyphen f cs = some c)
    (solid : Text.isBlank c = false) (sign : c ≠ '#') (more : List Char) :
    afterHyphen f (cs ++ more) = some c := by
  unfold afterHyphen at next ⊢
  split at next
  · rename_i plain
    rw [if_pos plain]
    rw [List.head?_append, next]
    rfl
  · rename_i verbose
    rw [if_neg verbose]
    split at next
    · rename_i tail trimmed
      have beyond : Text.trimStart tail ≠ [] := by
        intro blanks
        rw [blanks] at next
        have whole := trimStart_of_head next solid
        rw [← whole, trimmed] at next
        exact sign (Option.some.inj next).symm
      rw [trimStart_append (by simp [trimmed]), trimmed]
      simp only [List.cons_append]
      rw [trimStart_append beyond, List.head?_append_of_ne_nil _ beyond]
      obtain ⟨d, last, same⟩ := List.exists_cons_of_ne_nil beyond
      rw [same] at next ⊢
      exact next
    · rename_i d tail other trimmed
      cases next
      rw [trimStart_append (by simp [trimmed]), trimmed]
      simp
    · rename_i blanks
      have whole := trimStart_of_head next solid
      rw [blanks] at whole
      rw [← whole] at next
      cases next

/-- A character or a set that stands alone. -/
def aloneSet (f : Flags) : Escape → Option CharSet
  | .literal c => (classLiteral f c).map .single
  | .set s => some s
  | .look _ => none

/-- The characters between two. -/
def rangeSet (f : Flags) : Escape → Escape → Option CharSet
  | .literal low, .literal high => (classLiteral f low).bind fun low =>
    (classLiteral f high).bind fun high => if low ≤ high then some (.range low high) else none
  | _, _ => none

/-- What follows the first item of a range. -/
def readRest (f : Flags) (first : Escape) (cs : List Char) : Option (CharSet × List Char) :=
  if cs.isEmpty then none
  else
    match cs with
    | '-' :: more =>
      if afterHyphen f more == some ']' || afterHyphen f more == some '-' then
        (aloneSet f first).map fun s => (s, cs)
      else
        andThen (readItem f (skipBlanks f more)) fun second rest =>
          (rangeSet f first second).map fun s => (s, rest)
    | _ => (aloneSet f first).map fun s => (s, cs)

theorem readRange_eq : readRange f = fun cs =>
    andThen (readItem f cs) fun first rest => readRest f first (skipBlanks f rest) := by
  funext cs
  rw [readRange, andThen]
  rcases readItem f cs with _ | ⟨first, rest⟩
  · rfl
  · simp only [Option.bind_eq_bind, Option.bind_some, readRest]
    cases first with
    | look l => rfl
    | set s => rfl
    | literal low =>
      have alone (rest : List Char) : (classLiteral f low).map (fun c => (CharSet.single c, rest)) =
          (aloneSet f (.literal low)).map fun s => (s, rest) := by
        rw [aloneSet, Option.map_map]
        rfl
      rcases skipBlanks f rest with _ | ⟨c, more⟩
      · rfl
      · by_cases hyphen : c = '-'
        · subst hyphen
          simp only [List.isEmpty_cons, Bool.false_eq_true, ↓reduceIte]
          split
          · exact alone _
          · refine congrArg ((readItem f (skipBlanks f more)).bind ·) (funext fun a => ?_)
            obtain ⟨second, last⟩ := a
            cases second with
            | literal high =>
              simp only [rangeSet, Option.map_bind, Function.comp_def, apply_ite (Option.map _),
                Option.map_some, Option.map_none]
            | set s => rfl
            | look l => rfl
        · simp [hyphen, alone]

theorem isLocal_readRest (first : Escape) : IsLocal (readRest f first) := by
  intro cs a rest found
  rcases cs with _ | ⟨c, cs⟩
  · cases found
  by_cases hyphen : c = '-'
  · subst hyphen
    simp only [List.cons_append, readRest, List.isEmpty_cons, Bool.false_eq_true, ↓reduceIte]
      at found ⊢
    split at found
    · rename_i last
      obtain ⟨s, alone, same⟩ := Option.map_eq_some_iff.mp found
      cases same
      refine ⟨List.suffix_refl _, fun _ more => ?_⟩
      rw [Bool.or_eq_true, beq_iff_eq, beq_iff_eq] at last
      rw [if_pos, alone]
      · rfl
      · rw [Bool.or_eq_true, beq_iff_eq, beq_iff_eq]
        exact last.imp (fun h => afterHyphen_ahead h (by decide) (by decide) more)
          fun h => afterHyphen_ahead h (by decide) (by decide) more
    · rename_i middle
      have next : IsLocal fun cs => andThen (readItem f (skipBlanks f cs)) fun second rest =>
          (rangeSet f first second).map fun s => (s, rest) :=
        .andThen isLocal_readItem.afterBlanks fun second => .value _ id
      obtain ⟨suffix, forward⟩ := next found
      refine ⟨suffix.trans (List.suffix_cons _ _), fun further more => ?_⟩
      have solid : skipBlanks f cs ≠ [] := by
        intro blanks
        rw [blanks] at found
        cases found
      rw [afterHyphen_append solid, if_neg middle]
      exact forward further more
  · have other (cs : List Char) : readRest f first (c :: cs) =
        (aloneSet f first).map fun s => (s, c :: cs) := by simp [readRest, hyphen]
    rw [other] at found
    obtain ⟨s, alone, same⟩ := Option.map_eq_some_iff.mp found
    cases same
    exact ⟨List.suffix_refl _, fun _ more => by rw [List.cons_append, other, alone]; rfl⟩

theorem isLocal_readRange : IsLocal (readRange f) := by
  rw [readRange_eq]
  exact .andThen isLocal_readItem fun first => .afterBlanks (isLocal_readRest first)

/-- Something has to follow a range in a class. -/
theorem readRange_singleton (c : Char) : readRange f [c] = none := by
  have empty : ∀ first, readRest f first (skipBlanks f []) = none := fun first => by
    unfold skipBlanks
    split <;> rfl
  rw [readRange_eq, readItem_eq]
  simp only [onHead]
  split
  · rfl
  · exact empty _

/-! ## Classes -/

/-- The hyphens or the bracket that stand for themselves at the start of a class. -/
def readClassStart (f : Flags) (negated : Bool) (cs : List Char) :
    Option ((Bool × List CharSet) × List Char) :=
  andThen (some (spanSkipping f (· == '-') cs)) fun hyphens =>
    if hyphens.isEmpty then
      onHead ']' (fun rest =>
          (fun rest => if rest.isEmpty then none else some ((negated, [.single ']']), rest))
            (skipBlanks f rest))
        fun rest => if rest.isEmpty then none else some ((negated, []), rest)
    else fun rest => if rest.isEmpty then none else some ((negated, hyphens.map .single), rest)

theorem isLocal_readClassStart (negated : Bool) : IsLocal (readClassStart f negated) := by
  refine .andThen (isLocal_spanSkipping _) fun hyphens => ?_
  split
  · exact .onHead _ (.afterBlanks (.unlessEmpty _)) (.unlessEmpty _)
  · exact .unlessEmpty _

/-- The start of a class, with the sign that it is negated. -/
def readClassHead (f : Flags) (cs : List Char) : Option ((Bool × List CharSet) × List Char) :=
  onHead '^' (fun rest => readClassStart f true (skipBlanks f rest)) (readClassStart f false)
    (skipBlanks f cs)

theorem isLocal_readClassHead : IsLocal (readClassHead f) :=
  .afterBlanks (.onHead _ (isLocal_readClassStart true).afterBlanks (isLocal_readClassStart false))

theorem readClassOpen_eq (cs : List Char) : readClassOpen f cs =
    (readClassHead f cs).map fun p => (p.1.1, p.1.2, p.2) := by
  rw [readClassOpen, readClassHead]
  rcases skipBlanks f cs with _ | ⟨c, cs⟩
  · rfl
  by_cases caret : c = '^'
  on_goal 1 => subst caret
  -- With or without a caret, hyphens or a bracket follow.
  all_goals
    simp only [onHead, *, ↓reduceIte, readClassStart, andThen, Option.bind_some, List.cons.injEq,
      false_and, imp_self, implies_true]
    generalize spanSkipping f (· == '-') _ = p
    rcases p with ⟨_ | ⟨h, hyphens⟩, _ | ⟨d, rest⟩⟩
    · rfl
    · by_cases bracket : d = ']'
      · subst bracket
        simp only [onHead, List.isEmpty_nil, ↓reduceIte]
        split <;> rfl
      · simp [onHead, bracket]
    · rfl
    · simp

/-- What stands in a class inside of another one. -/
def readInner (f : Flags) (fuel nesting : Nat) (rest : List Char) : Option (Part × List Char) :=
  andThen (readClassHead f rest) fun start =>
    readClass f fuel nesting start.1 none (start.2.reverse.map fun s => ⟨s, 0⟩)

/-- A class after it has been opened. -/
theorem readClassOpen_bind (fuel nesting : Nat) (rest : List Char)
    (next : Part × List Char → Option β) :
    ((readClassOpen f rest).bind fun p => (readClass f fuel nesting p.1 none
      (p.2.1.reverse.map fun s => (⟨s, 0⟩ : Part)) p.2.2).bind next) =
    (readInner f fuel nesting rest).bind next := by
  rw [readClassOpen_eq, readInner, andThen, Option.bind_map, Option.bind_assoc]
  rfl

/-- What follows a bracket in a class: a class between colons, or a class of any kind. -/
def readBracket (f : Flags) (fuel : Nat) (nesting : Nat) (negated : Bool)
    (pending : Option (SetOp × Part)) (items : List Part) (rest : List Char) :
    Option (Part × List Char) :=
  orElse (readAsciiClass rest)
    (fun s rest => (negate f s.2 (foldCase f s.1)).bind fun s =>
      readClass f fuel nesting negated pending (⟨s, 0⟩ :: items) rest)
    (match nesting with
    | 0 => none
    | inner + 1 => andThen (readInner f fuel inner rest) fun part =>
        readClass f fuel nesting negated pending (part :: items))

theorem readClass_succ (fuel nesting : Nat) (negated : Bool) (pending : Option (SetOp × Part))
    (items : List Part) : readClass f (fuel + 1) nesting negated pending items = fun cs =>
      onHead ']' (fun rest => (negate f negated (foldCase f (combine f pending items).set)).map
          fun s => (⟨s, (combine f pending items).depth + 1⟩, rest))
        (onHead '[' (readBracket f fuel nesting negated pending items)
          (onPair '&' (readClass f fuel nesting negated
              (some (.intersection, combine f pending items)) [])
            (onPair '-' (readClass f fuel nesting negated
                (some (.difference, combine f pending items)) [])
              (onPair '~' (readClass f fuel nesting negated
                  (some (.symmetricDifference, combine f pending items)) [])
                (fun cs => andThen (readRange f cs) fun s =>
                  readClass f fuel nesting negated pending (⟨s, 0⟩ :: items))))))
        (skipBlanks f cs) := by
  funext cs
  rw [readClass]
  rcases skipBlanks f cs with _ | ⟨c, cs⟩
  · rfl
  · by_cases close : c = ']'
    · subst close
      rfl
    · by_cases bracket : c = '['
      · subst bracket
        simp only [onHead, close, ↓reduceIte, readBracket, orElse]
        rcases readAsciiClass cs with _ | ⟨⟨s, inverse⟩, rest⟩
        · cases nesting with
          | zero => rfl
          | succ nesting => exact readClassOpen_bind _ _ _ _
        · rfl
      · rcases cs with _ | ⟨d, cs⟩
        · simp [onHead, onPair, close, bracket, andThen]
        · by_cases amp : c = '&' ∧ d = '&'
          · obtain ⟨rfl, rfl⟩ := amp
            rfl
          · by_cases hyphens : c = '-' ∧ d = '-'
            · obtain ⟨rfl, rfl⟩ := hyphens
              rfl
            · by_cases tildes : c = '~' ∧ d = '~'
              · obtain ⟨rfl, rfl⟩ := tildes
                rfl
              · simp only [onHead, close, bracket, onPair, amp, hyphens, tildes, ↓reduceIte,
                  andThen]
                split <;> simp_all

/-- What can be read holds the character. -/
def Holds (d : Char) (read : List Char → Option (α × List Char)) : Prop :=
  ∀ cs, (read cs).isSome → d ∈ cs

namespace Holds

variable {d : Char} {read other : List Char → Option (α × List Char)}

theorem head (h : Holds d other) : Holds d (onHead d read other) := by
  intro cs found
  rcases cs with _ | ⟨c, cs⟩
  · exact h [] found
  · simp only [onHead] at found
    split at found
    · rename_i same
      exact same ▸ List.mem_cons_self
    · exact h _ found

theorem onHead (e : Char) (h : Holds d read) (h' : Holds d other) :
    Holds d (onHead e read other) := by
  intro cs found
  rcases cs with _ | ⟨c, cs⟩
  · exact h' [] found
  · simp only [Reader.onHead] at found
    split at found
    · exact List.mem_cons_of_mem c (h cs found)
    · exact h' _ found

theorem onPair (e : Char) (h : Holds d read) (h' : Holds d other) :
    Holds d (onPair e read other) := by
  intro cs found
  match cs with
  | [] => exact h' [] found
  | [c] => exact h' [c] found
  | c :: c' :: cs =>
    simp only [Reader.onPair] at found
    split at found
    · exact List.mem_cons_of_mem c (List.mem_cons_of_mem c' (h cs found))
    · exact h' _ found

theorem andThen {read' : List Char → Option (α × List Char)} (h : Extends read read')
    {next : α → List Char → Option (β × List Char)} (h' : ∀ a, Holds d (next a)) :
    Holds d fun cs => andThen (read cs) next := by
  intro cs found
  obtain ⟨b, found⟩ := Option.isSome_iff_exists.mp found
  obtain ⟨⟨a, rest⟩, reads, found⟩ := Option.bind_eq_some_iff.mp found
  exact (h reads).1.subset (h' a rest (Option.isSome_of_eq_some found))

end Holds

theorem extends_readInner {fuel fuel' : Nat} (h : ∀ nesting negated pending items,
    Extends (readClass f fuel nesting negated pending items)
      (readClass f fuel' nesting negated pending items)) (nesting : Nat) :
    Extends (readInner f fuel nesting) (readInner f fuel' nesting) :=
  .andThen isLocal_readClassHead fun _ => h _ _ _ _

theorem holds_readInner {fuel nesting : Nat} (h : ∀ nesting negated pending items,
    Holds ']' (readClass f fuel nesting negated pending items)) :
    Holds ']' (readInner f fuel nesting) :=
  .andThen isLocal_readClassHead fun _ => h _ _ _ _

/-- The class ends with a bracket. -/
theorem holds_readClass (fuel nesting : Nat) (negated : Bool) (pending : Option (SetOp × Part))
    (items : List Part) : Holds ']' (readClass f fuel nesting negated pending items) := by
  induction fuel generalizing nesting negated pending items with
  | zero =>
    intro cs found
    cases found
  | succ fuel ih =>
    rw [readClass_succ]
    intro cs found
    refine (suffix_skipBlanks f cs).subset (Holds.head ?_ _ found)
    refine .onHead _ ?_ (.onPair _ (ih _ _ _ _) (.onPair _ (ih _ _ _ _) (.onPair _ (ih _ _ _ _)
      (.andThen isLocal_readRange fun _ => ih _ _ _ _))))
    intro cs found
    simp only [readBracket, orElse] at found
    split at found
    · rename_i p reads
      obtain ⟨part, found⟩ := Option.isSome_iff_exists.mp found
      obtain ⟨s, -, found⟩ := Option.bind_eq_some_iff.mp found
      exact (isLocal_readAsciiClass reads).1.subset
        (ih _ _ _ _ _ (Option.isSome_of_eq_some found))
    · cases nesting with
      | zero => cases found
      | succ nesting =>
        obtain ⟨part, found⟩ := Option.isSome_iff_exists.mp found
        obtain ⟨inner, reads, -⟩ := Option.bind_eq_some_iff.mp found
        exact holds_readInner ih cs (Option.isSome_of_eq_some reads)

/-- What a class takes from the front of a text, it takes whatever follows, and with more fuel. -/
theorem extends_readClass {fuel fuel' : Nat} (le : fuel ≤ fuel') (nesting : Nat) (negated : Bool)
    (pending : Option (SetOp × Part)) (items : List Part) :
    Extends (readClass f fuel nesting negated pending items)
      (readClass f fuel' nesting negated pending items) := by
  induction fuel generalizing fuel' nesting negated pending items with
  | zero => exact .nothing
  | succ fuel ih =>
    obtain ⟨fuel', rfl⟩ := Nat.exists_eq_add_one_of_ne_zero (Nat.ne_zero_of_lt le)
    have ih := fun nesting negated pending items =>
      ih (Nat.le_of_succ_le_succ le) nesting negated pending items
    have bracket : Extends (readBracket f fuel nesting negated pending items)
        (readBracket f fuel' nesting negated pending items) := by
      have ascii (p : CharSet × Bool) := Extends.given (negate f p.2 (foldCase f p.1))
        fun s => ih nesting negated pending (⟨s, 0⟩ :: items)
      cases nesting with
      | zero => exact .orElse isLocal_readAsciiClass ascii .nothing fun cs found => by cases found
      | succ nesting =>
        refine .orElse isLocal_readAsciiClass ascii
          (.andThen (extends_readInner ih nesting) fun part => ih _ _ _ _) fun cs found unread => ?_
        -- The bracket that ends the inner class keeps a class between colons from being completed.
        obtain ⟨p, found⟩ := Option.isSome_iff_exists.mp found
        obtain ⟨inner, reads, -⟩ := Option.bind_eq_some_iff.mp found
        exact readAsciiClass_append
          (holds_readInner (holds_readClass fuel) cs (Option.isSome_of_eq_some reads)) unread
    rw [readClass_succ, readClass_succ]
    have range := Extends.andThen (isLocal_readRange (f := f))
      fun s => ih nesting negated pending (⟨s, 0⟩ :: items)
    have single (c : Char) : andThen (readRange f [c])
        (fun s => readClass f fuel nesting negated pending (⟨s, 0⟩ :: items)) = none := by
      rw [readRange_singleton]
      rfl
    exact .afterBlanks (.onHead _ (.value _ _) (.onHead _ bracket (.onPair _ (ih _ _ _ _)
      (.onPair _ (ih _ _ _ _) (.onPair _ (ih _ _ _ _) range single)
        fun c => single c) fun c => single c)))

end Xsd.Regex.Reader
