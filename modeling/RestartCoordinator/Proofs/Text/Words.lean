import RestartCoordinator.Text.Blank
/-!
# Trimmed texts and words

Trimming leaves a text without a blank at either end, and leaves such a text as it is. The words of
two texts with a blank between them are those of the one and then those of the other, so blanks at
the ends and more blanks in the middle make no difference. A text consists of its words, with blanks
around them, and of no other ones.
-/
namespace RestartCoordinator.Text

variable {c : Char} {s t w : List Char}

/-- The text consists of blanks. -/
def Blanks (s : List Char) : Prop := ∀ c ∈ s, isBlank c = true

/-- No blank is in the text. -/
def Solid (s : List Char) : Prop := ∀ c ∈ s, isBlank c = false

-- the characters of the text are looked at, not all characters
instance (s : List Char) : Decidable (Blanks s) := s.decidableBAll (isBlank · = true)

instance (s : List Char) : Decidable (Solid s) := s.decidableBAll (isBlank · = false)

/-- No blank stands at either end of the text. -/
structure Flush (s : List Char) : Prop where
  head : ∀ c ∈ s.head?, isBlank c = false
  last : ∀ c ∈ s.getLast?, isBlank c = false

theorem Solid.flush (h : Solid s) : Flush s where
  head := fun c hc => h c (List.mem_of_mem_head? hc)
  last := fun c hc => h c (List.mem_of_getLast? hc)

theorem Flush.append (hs : Flush s) (ht : Flush t) (hs' : s ≠ []) (ht' : t ≠ []) :
    Flush (s ++ t) where
  head := by
    intro c hc
    rw [List.head?_append] at hc
    cases s with
    | nil => contradiction
    | cons a rest => exact hs.head c (by simpa using hc)
  last := by
    intro c hc
    rw [List.getLast?_append] at hc
    obtain ⟨a, ha⟩ := Option.isSome_iff_exists.mp (List.getLast?_isSome.mpr ht')
    rw [ha] at hc
    exact ht.last c (by simpa [ha] using hc)

private theorem head?_dropWhile_isBlank (hc : c ∈ (s.dropWhile isBlank).head?) :
    isBlank c = false := by
  have hnot := s.head?_dropWhile_not isBlank
  rw [Option.mem_def.mp hc] at hnot
  exact hnot

theorem flush_trim (s : List Char) : Flush (trim s) where
  head := by
    intro c hc
    have hsplit := (s.dropWhile isBlank).reverse.takeWhile_append_dropWhile (p := isBlank)
    rw [trim, List.head?_reverse] at hc
    apply head?_dropWhile_isBlank (s := s)
    rw [← List.getLast?_reverse, ← hsplit, List.getLast?_append, Option.mem_def.mp hc]
    rfl
  last := by
    intro c hc
    rw [trim, List.getLast?_reverse] at hc
    exact head?_dropWhile_isBlank hc

private theorem dropWhile_isBlank_of_head (h : ∀ c ∈ s.head?, isBlank c = false) :
    s.dropWhile isBlank = s := by
  cases s with
  | nil => rfl
  | cons c rest =>
    have hc : isBlank c = false := h c rfl
    simp [hc]

theorem trim_of_flush (h : Flush s) : trim s = s := by
  have hlast : ∀ c ∈ s.reverse.head?, isBlank c = false := by
    rw [List.head?_reverse]
    exact h.last
  rw [trim, dropWhile_isBlank_of_head h.head, dropWhile_isBlank_of_head hlast, List.reverse_reverse]

private theorem pieces_ne_nil (s : List Char) : pieces s ≠ [] := by
  induction s with
  | nil => simp [pieces]
  | cons c rest ih =>
    unfold pieces
    split
    · simp
    · simp [ih]

private theorem pieces_append_cons (hc : isBlank c = true) (s t : List Char) :
    pieces (s ++ c :: t) = pieces s ++ pieces t := by
  induction s with
  | nil => simp [pieces, hc]
  | cons a rest ih =>
    rw [List.cons_append]
    by_cases ha : isBlank a = true
    · simp only [pieces, ha, if_true, ih, List.cons_append]
    · simp only [pieces, ha, ih]
      cases hp : pieces rest with
      | nil => exact absurd hp (pieces_ne_nil rest)
      | cons piece more => rfl

private theorem words_append_cons (hc : isBlank c = true) (s t : List Char) :
    words (s ++ c :: t) = words s ++ words t := by
  rw [words, pieces_append_cons hc, List.filter_append]
  rfl

private theorem words_blanks_append (h : Blanks t) (s : List Char) : words (t ++ s) = words s := by
  induction t with
  | nil => rfl
  | cons c rest ih =>
    have hc : isBlank c = true := h c List.mem_cons_self
    rw [List.cons_append, words_cons_blank _ hc]
    exact ih fun a ha => h a (List.mem_cons_of_mem c ha)

private theorem words_append_blanks (h : Blanks t) (s : List Char) : words (s ++ t) = words s := by
  cases t with
  | nil => rw [List.append_nil]
  | cons c rest =>
    have hrest : words (rest ++ []) = words [] :=
      words_blanks_append (fun a ha => h a (List.mem_cons_of_mem c ha)) []
    rw [List.append_nil] at hrest
    rw [words_append_cons (h c List.mem_cons_self), hrest, words_nil, List.append_nil]

private theorem words_of_solid (h : Solid w) (hw : w ≠ []) : words w = [w] := by
  have hp : pieces w = [w] := by
    clear hw
    induction w with
    | nil => rfl
    | cons c rest ih =>
      have hc : isBlank c = false := h c List.mem_cons_self
      have hrest : pieces rest = [rest] := ih fun a ha => h a (List.mem_cons_of_mem c ha)
      simp [pieces, hc, hrest]
  simp [words, hp, hw]

theorem words_around {lead trail : List Char} (hl : Blanks lead) (ht : Blanks trail) (hw : Solid w)
    (hne : w ≠ []) : words (lead ++ w ++ trail) = [w] := by
  rw [words_append_blanks ht, words_blanks_append hl, words_of_solid hw hne]

theorem words_around_two {lead gap trail w' : List Char} (hl : Blanks lead) (hg : Blanks gap)
    (ht : Blanks trail) (hgap : gap ≠ []) (hw : Solid w) (hne : w ≠ []) (hw' : Solid w')
    (hne' : w' ≠ []) : words (lead ++ w ++ gap ++ w' ++ trail) = [w, w'] := by
  cases gap with
  | nil => exact absurd rfl hgap
  | cons c more =>
    have hsplit : lead ++ w ++ c :: more ++ w' ++ trail =
        (lead ++ w) ++ c :: (more ++ w' ++ trail) := by simp
    have hmore : Blanks more := fun a ha => hg a (List.mem_cons_of_mem c ha)
    rw [hsplit, words_append_cons (hg c List.mem_cons_self), words_blanks_append hl,
      words_of_solid hw hne, words_around hmore ht hw' hne']
    rfl

/-- The text consists of these words: blanks may stand around them, and stand between any two. -/
inductive Spaced : List Char → List (List Char) → Prop where
  | blanks {s : List Char} (h : Blanks s) : Spaced s []
  | word {lead w rest : List Char} {more : List (List Char)} (hl : Blanks lead) (hw : Solid w)
      (hne : w ≠ []) (hr : ∀ c ∈ rest.head?, isBlank c = true) (h : Spaced rest more) :
      Spaced (lead ++ w ++ rest) (w :: more)

theorem Spaced.words_eq {ws : List (List Char)} (h : Spaced s ws) : words s = ws := by
  induction h with
  | blanks h =>
    have hnil := words_append_blanks h []
    rwa [List.nil_append, words_nil] at hnil
  | @word lead w rest more hl hw hne hr _ ih =>
    cases rest with
    | nil =>
      rw [List.append_nil, words_blanks_append hl, words_of_solid hw hne, ← ih, words_nil]
    | cons c rest =>
      have hc : isBlank c = true := hr c rfl
      rw [words_append_cons hc, words_blanks_append hl, words_of_solid hw hne,
        ← words_cons_blank rest hc, ih]
      rfl

private theorem Spaced.exists_cons {ws : List (List Char)} (h : Spaced s ws) (c : Char) :
    ∃ ws', Spaced (c :: s) ws' := by
  cases hc : isBlank c with
  | true =>
    cases h with
    | blanks h => exact ⟨_, .blanks (List.forall_mem_cons.mpr ⟨hc, h⟩)⟩
    | word hl hw hne hr h =>
      exact ⟨_, .word (List.forall_mem_cons.mpr ⟨hc, hl⟩) hw hne hr h⟩
  | false =>
    have hnone : Blanks [] := nofun
    have hsolid : Solid [c] := List.forall_mem_singleton.mpr hc
    have hshort (hr : ∀ a ∈ s.head?, isBlank a = true) : ∃ ws', Spaced (c :: s) ws' :=
      ⟨_, .word hnone hsolid (List.cons_ne_nil _ _) hr h⟩
    cases h with
    | blanks hb => exact hshort fun a ha => hb a (List.mem_of_mem_head? ha)
    | @word lead w rest more hl hw hne hr h =>
      cases lead with
      | nil =>
        have hlong : Solid (c :: w) := List.forall_mem_cons.mpr ⟨hc, hw⟩
        exact ⟨_, .word hnone hlong (List.cons_ne_nil _ _) hr h⟩
      | cons b lead =>
        apply hshort
        intro a ha
        obtain rfl := Option.some.inj ha
        exact hl b List.mem_cons_self

/-- The words of a text are the only ones of which it consists. -/
theorem spaced_iff {ws : List (List Char)} : Spaced s ws ↔ words s = ws := by
  refine ⟨Spaced.words_eq, ?_⟩
  rintro rfl
  have hsome : ∃ ws, Spaced s ws := by
    induction s with
    | nil => exact ⟨[], .blanks nofun⟩
    | cons c rest ih =>
      obtain ⟨ws, h⟩ := ih
      exact h.exists_cons c
  obtain ⟨ws, h⟩ := hsome
  rwa [h.words_eq]

private theorem toLower_of_isBlank (h : isBlank c = true) : c.toLower = c := by
  unfold Char.toLower
  split
  · rename_i hcap
    have hlow : 65 ≤ c.toNat := hcap.1
    have hhigh : c.toNat ≤ 90 := hcap.2
    simp only [isBlank, Bool.or_eq_true, Bool.and_eq_true, decide_eq_true_iff, beq_iff_eq] at h
    omega
  · rfl

theorem solid_of_lower (h : Solid (lower w)) : Solid w := by
  intro c hc
  cases hb : isBlank c with
  | false => rfl
  | true =>
    have hmem : c ∈ lower w := List.mem_map.mpr ⟨c, hc, toLower_of_isBlank hb⟩
    exact hb.symm.trans (h c hmem)

theorem lower_ne_nil_iff : lower w ≠ [] ↔ w ≠ [] := by simp [lower]

end RestartCoordinator.Text
