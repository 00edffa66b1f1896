/-
This file proves that the items of attributes are read from lists of pieces. The attributes that
steer traversals hold lists, whose pieces follow one another through all of these attributes. A
reader that takes one piece at a time takes the items that the pieces stand for, and folding over
the items succeeds on a run of attributes exactly where such a listing exists. So it does not
matter how the pieces are spread over attributes, nor which others stand between these.
-/

import Fieldwise.Proofs.ItemReaders
import Mathlib.Data.List.Forall2

namespace Fieldwise.Attribute

open Reader
open Token (front Yields Pieces Unbroken countAll)

variable {Item State : Type}

/-! ### Readers of pieces -/

/-- Nothing follows, or a comma does. -/
def AtBorder (tokens : Tokens) : Prop :=
  tokens = [] ∨ ∃ joint rest, front tokens = .mark ',' joint :: rest

theorem AtBorder.not_separator {tokens : Tokens} (border : AtBorder tokens) :
    Lookahead.mark "::" tokens = false := by
  rcases border with rfl | ⟨joint, rest, first⟩
  · rfl
  · rw [Lookahead.mark, first]
    rfl

/-- A reader of items takes the pieces that items stand for, up to a border, and takes no good
item from anything else. -/
structure TakesPieces (item : Path → Reader Item) (fits : Item → Tokens → Prop)
    (good : Item → Prop) : Prop where
  unbroken : ∀ {found piece}, fits found piece → Unbroken piece
  takes : ∀ {found piece later reading}, fits found piece →
    Yields reading.remaining piece later → AtBorder later →
      ∃ after, (itemPath >>= item) reading = .ok (found, after) ∧ after.remaining = later
  taken : ∀ {found reading after}, (itemPath >>= item) reading = .ok (found, after) →
    good found → ∃ piece, fits found piece ∧ Yields reading.remaining piece after.remaining

/-- Every item of a list is good if it could be taken further. -/
theorem forall_good_of_foldlM {step : State → Item → Except AttributeError State}
    {good : Item → Prop} (steps : ∀ state found state', step state found = .ok state' → good found)
    {start last : State} {found : List Item} (folded : found.foldlM step start = .ok last) :
    ∀ each ∈ found, good each := by
  induction found generalizing start with
  | nil => exact fun _ member => absurd member List.not_mem_nil
  | cons first rest inductionHypothesis =>
    rw [List.foldlM_cons] at folded
    cases taken : step start first with
    | error error =>
      rw [taken] at folded
      cases folded
    | ok state =>
      rw [taken] at folded
      exact List.forall_mem_cons.mpr ⟨steps _ _ _ taken, inductionHypothesis folded⟩

/-! ### Lists -/

section Lists

/-- A fold fails at the first item that cannot be taken further. -/
theorem foldlM_eq_error_iff {step : State → Item → Except AttributeError State} {start : State}
    {items : List Item} {error : AttributeError} :
    items.foldlM step start = .error error ↔
      ∃ before item after state, items = before ++ item :: after ∧
        before.foldlM step start = .ok state ∧ step state item = .error error := by
  induction items generalizing start with
  | nil =>
    refine ⟨nofun, ?_⟩
    rintro ⟨before, item, after, _, split, -, -⟩
    exact absurd split.symm (List.append_ne_nil_of_right_ne_nil _ (List.cons_ne_nil item after))
  | cons first rest inductionHypothesis =>
    rw [List.foldlM_cons]
    cases taken : step start first with
    | error own =>
      constructor
      · intro failed
        cases failed
        exact ⟨[], first, rest, start, rfl, rfl, taken⟩
      · rintro ⟨before, item, after, state, split, folded, failed⟩
        cases before with
        | nil =>
          cases split
          cases folded
          exact taken.symm.trans failed
        | cons other before =>
          cases split
          rw [List.foldlM_cons, taken] at folded
          cases folded
    | ok middle =>
      refine Iff.trans (@inductionHypothesis middle) ?_
      constructor
      · rintro ⟨before, item, after, state, rfl, folded, failed⟩
        refine ⟨first :: before, item, after, state, rfl, ?_, failed⟩
        rwa [List.foldlM_cons, taken]
      · rintro ⟨before, item, after, state, split, folded, failed⟩
        cases before with
        | nil =>
          cases split
          cases folded
          rw [taken] at failed
          cases failed
        | cons other before =>
          cases split
          rw [List.foldlM_cons, taken] at folded
          exact ⟨before, item, after, state, rfl, folded, failed⟩

variable {item : Path → Reader Item} {fits : Item → Tokens → Prop} {good : Item → Prop}
  (reads : TakesPieces item fits good) {found : List Item} {shown tokens : Tokens}
  {pieces : List Tokens} {reading : Reading} {limit : Nat}

include reads

/-- All pieces of a list are read, one item for each. -/
theorem itemsUpTo_of_pieces (list : Pieces shown pieces) (nonempty : shown ≠ [])
    (each : List.Forall₂ fits found pieces) (yields : Yields reading.remaining shown [])
    (enough : pieces.length ≤ limit) : itemsUpTo item limit reading = (found, none) := by
  induction list generalizing reading found limit with
  | none => exact absurd rfl nonempty
  | last unbroken =>
    obtain ⟨first, _, fit, none, rfl⟩ := List.forall₂_cons_right_iff.mp each
    cases none
    obtain ⟨limit, rfl⟩ := Nat.exists_eq_succ_of_ne_zero (Nat.ne_zero_of_lt enough)
    obtain ⟨after, read, remaining⟩ := reads.takes fit yields (.inl rfl)
    rw [itemsUpTo, read]
    dsimp only
    rw [remaining]
    rfl
  | @more piece rest joint pieces unbroken others inductionHypothesis =>
    obtain ⟨first, further, fit, eachFurther, rfl⟩ := List.forall₂_cons_right_iff.mp each
    obtain ⟨limit, rfl⟩ := Nat.exists_eq_succ_of_ne_zero (Nat.ne_zero_of_lt enough)
    obtain ⟨later, front, back⟩ := yields.exists_of_append
    cases back with
    | @next _ last _ _ _ comma back =>
    obtain ⟨after, read, rfl⟩ := reads.takes fit front (.inr ⟨joint, last, comma⟩)
    obtain ⟨next, mark, rfl⟩ := mark_of_front (show ",".toList = [','] from rfl) comma
    have more : after.remaining.isEmpty = false := by
      rw [List.isEmpty_eq_false_iff]
      intro none
      rw [none] at comma
      cases comma
    rw [itemsUpTo, read]
    dsimp only
    rw [more, if_neg Bool.false_ne_true, mark]
    dsimp only
    -- After the comma the list may end, or another piece comes.
    by_cases done : rest = []
    · subst done
      cases others.unique .none rfl
      cases eachFurther
      rw [back.eq_nil_iff.mpr rfl]
      rfl
    · have again : next.remaining.isEmpty = false :=
        List.isEmpty_eq_false_iff.mpr fun none => done (back.eq_nil_iff.mp none)
      rw [again, if_neg Bool.false_ne_true,
        inductionHypothesis done eachFurther back (Nat.le_of_succ_le_succ enough)]

/-- Up to a comma that comes next, what is read of a good item is a piece. -/
theorem TakesPieces.taken_comma {first : Item} {after next : Reading} {result : Unit}
    (taken : (itemPath >>= item) reading = .ok (first, after)) (isGood : good first)
    (mark : Reader.mark "," after = .ok (result, next)) :
    ∃ piece joint, fits first piece ∧
      Yields reading.remaining (piece ++ [.mark ',' joint]) next.remaining := by
  obtain ⟨piece, fit, yields⟩ := reads.taken taken isGood
  obtain ⟨joint, comma⟩ := front_of_mark (show ",".toList = [','] from rfl) mark
  exact ⟨piece, joint, fit, yields.append (.next comma (.none _))⟩

/-- Where only good items are read, and all of a run, its tokens are a list of pieces. -/
theorem pieces_of_itemsUpTo (read : itemsUpTo item limit reading = (found, none))
    (allGood : ∀ each ∈ found, good each) (enough : countAll reading.remaining < limit) :
    ∃ shown pieces, Yields reading.remaining shown [] ∧ Pieces shown pieces ∧
      List.Forall₂ fits found pieces := by
  -- The limit exceeds what is left to read, so it is never what ends the list.
  induction limit generalizing reading found with
  | zero => cases enough
  | succ limit inductionHypothesis =>
    rw [itemsUpTo] at read
    split at read
    · cases read
    rename_i first after taken
    split at read
    · rename_i none
      cases read
      obtain ⟨piece, fit, yields⟩ := reads.taken taken (allGood first List.mem_cons_self)
      rw [List.isEmpty_iff.mp none] at yields
      exact ⟨piece, [piece], yields, .last (reads.unbroken fit), .cons fit .nil⟩
    split at read
    · cases read
    rename_i next mark
    split at read
    · rename_i none
      cases read
      obtain ⟨piece, joint, fit, yields⟩ :=
        reads.taken_comma taken (allGood first List.mem_cons_self) mark
      rw [List.isEmpty_iff.mp none] at yields
      exact ⟨_, [piece], yields, .more (reads.unbroken fit) .none, .cons fit .nil⟩
    · cases further : itemsUpTo item limit next with
      | mk more failure =>
        rw [further] at read
        cases read
        rw [List.forall_mem_cons] at allGood
        obtain ⟨piece, joint, fit, yields⟩ := reads.taken_comma taken allGood.1 mark
        have counted := yields.length_le
        rw [List.length_append, List.length_singleton] at counted
        obtain ⟨shown, pieces, back, others, each⟩ :=
          inductionHypothesis further allGood.2 (by omega)
        have whole := yields.append back
        rw [List.append_assoc] at whole
        exact ⟨_, _, whole, .more (reads.unbroken fit) others, .cons fit each⟩

theorem items_of_pieces (yields : Yields tokens shown []) (list : Pieces shown pieces)
    (each : List.Forall₂ fits found pieces) : items item tokens = (found, none) := by
  unfold items
  split
  · rename_i none
    cases yields.eq_nil_iff.mp (List.isEmpty_iff.mp none)
    cases list.unique .none rfl
    cases each
    rfl
  · rename_i more
    have nonempty : shown ≠ [] := fun none =>
      more (List.isEmpty_iff.mpr (yields.eq_nil_iff.mpr none))
    have counted := yields.length_le
    have fewer := list.length_le
    exact itemsUpTo_of_pieces reads list nonempty each yields (by omega)

theorem pieces_of_items (read : items item tokens = (found, none))
    (allGood : ∀ each ∈ found, good each) :
    ∃ shown pieces, Yields tokens shown [] ∧ Pieces shown pieces ∧
      List.Forall₂ fits found pieces := by
  unfold items at read
  split at read
  · rename_i none
    cases read
    rw [List.isEmpty_iff.mp none]
    exact ⟨[], [], .none [], .none, .nil⟩
  · exact pieces_of_itemsUpTo reads read allGood (Nat.lt_succ_self _)

end Lists

/-! ### Listings -/

/-- The pieces of all lists in steering attributes, one attribute after the other. -/
inductive Listing : List Attribute → List Tokens → Prop
  | none : Listing [] []
  | unrelated {given : Attribute} {rest : List Attribute} {pieces : List Tokens}
      (other : given.isSteering = false) (more : Listing rest pieces) :
      Listing (given :: rest) pieces
  | steering {given : Attribute} {rest : List Attribute} {tokens shown : Tokens}
      {own pieces : List Tokens} (steers : given.isSteering = true)
      (content : given.content = .list tokens) (yields : Yields tokens shown [])
      (list : Pieces shown own) (more : Listing rest pieces) :
      Listing (given :: rest) (own ++ pieces)

variable {attributes : List Attribute} {pieces pieces' : List Tokens}

theorem Listing.unique (first : Listing attributes pieces) (second : Listing attributes pieces') :
    pieces = pieces' := by
  induction first generalizing pieces' with
  | none =>
    cases second
    rfl
  | unrelated other _ inductionHypothesis =>
    cases second with
    | unrelated _ more => exact inductionHypothesis more
    | steering steers _ _ _ _ =>
      rw [other] at steers
      cases steers
  | steering steers content yields list _ inductionHypothesis =>
    cases second with
    | unrelated other _ =>
      rw [other] at steers
      cases steers
    | steering _ content' yields' list' more =>
      rw [content] at content'
      cases content'
      rw [list.unique list' (yields.unique yields'), inductionHypothesis more]

variable {item : Path → Reader Item} {step : State → Item → Except AttributeError State}
  {start last : State} {given : Attribute} {rest : List Attribute} {found : List Item}

theorem foldItems_unrelated (other : given.isSteering = false) :
    foldItems item step start (given :: rest) = foldItems item step start rest := by
  unfold foldItems
  rw [List.filter_cons_of_neg (by rw [other]; exact Bool.false_ne_true)]

theorem foldItems_steering (steers : given.isSteering = true) {tokens : Tokens}
    (content : given.content = .list tokens) (read : items item tokens = (found, none)) :
    foldItems item step start (given :: rest) =
      found.foldlM step start >>= fun state => foldItems item step state rest := by
  unfold foldItems
  rw [List.filter_cons_of_pos steers, List.foldlM_cons, content]
  dsimp only
  rw [read]
  dsimp only
  cases found.foldlM step start <;> rfl

/-- The items of a steering attribute are read to their end where all succeeds. -/
theorem exists_of_foldItems_steering (steers : given.isSteering = true)
    (folded : foldItems item step start (given :: rest) = .ok last) :
    ∃ tokens found state, given.content = .list tokens ∧ items item tokens = (found, none) ∧
      found.foldlM step start = .ok state ∧ foldItems item step state rest = .ok last := by
  unfold foldItems at folded
  rw [List.filter_cons_of_pos steers, List.foldlM_cons] at folded
  cases content : given.content with
  | none =>
    rw [content] at folded
    cases folded
  | value =>
    rw [content] at folded
    cases folded
  | list tokens =>
    rw [content] at folded
    dsimp only at folded
    cases read : items item tokens with
    | mk found failure =>
      rw [read] at folded
      dsimp only at folded
      cases folds : found.foldlM step start with
      | error error =>
        rw [folds] at folded
        cases folded
      | ok state =>
        rw [folds] at folded
        cases failure with
        | some error => cases folded
        | none => exact ⟨tokens, found, state, rfl, read, folds, folded⟩

variable {fits : Item → Tokens → Prop} {good : Item → Prop} (reads : TakesPieces item fits good)

include reads

/-- Where there is a listing, what is folded over are the items that its pieces stand for. -/
theorem foldItems_of_listing (listing : Listing attributes pieces)
    (each : List.Forall₂ fits found pieces) :
    foldItems item step start attributes = found.foldlM step start := by
  induction listing generalizing start found with
  | none =>
    cases each
    rfl
  | unrelated other _ inductionHypothesis =>
    rw [foldItems_unrelated other, inductionHypothesis each]
  | @steering _ _ _ _ own _ steers content yields list _ inductionHypothesis =>
    -- As many of the items as the attribute has pieces are its own.
    have front := List.forall₂_take_append found own _ each
    have back := List.forall₂_drop_append found own _ each
    rw [foldItems_steering steers content (items_of_pieces reads yields list front)]
    conv_rhs => rw [← List.take_append_drop own.length found, List.foldlM_append]
    exact congrArg _ (funext fun state => inductionHypothesis back)

/-- Folding succeeds on listings only. -/
theorem listing_of_foldItems
    (steps : ∀ state found state', step state found = .ok state' → good found)
    (folded : foldItems item step start attributes = .ok last) :
    ∃ pieces found, Listing attributes pieces ∧ List.Forall₂ fits found pieces ∧
      found.foldlM step start = .ok last := by
  induction attributes generalizing start with
  | nil =>
    cases folded
    exact ⟨[], [], .none, .nil, rfl⟩
  | cons given rest inductionHypothesis =>
    cases steers : given.isSteering with
    | false =>
      rw [foldItems_unrelated steers] at folded
      obtain ⟨pieces, found, listing, each, folds⟩ := inductionHypothesis folded
      exact ⟨pieces, found, .unrelated steers listing, each, folds⟩
    | true =>
      obtain ⟨tokens, own, state, content, read, folds, further⟩ :=
        exists_of_foldItems_steering steers folded
      obtain ⟨shown, ownPieces, yields, list, eachOwn⟩ :=
        pieces_of_items reads read (forall_good_of_foldlM steps folds)
      obtain ⟨pieces, found, listing, each, foldsFurther⟩ := inductionHypothesis further
      refine ⟨ownPieces ++ pieces, own ++ found, .steering steers content yields list listing,
        List.rel_append eachOwn each, ?_⟩
      rw [List.foldlM_append, folds]
      exact foldsFurther

end Fieldwise.Attribute
