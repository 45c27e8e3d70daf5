import Mathlib.Data.List.Forall2
import Mathlib.Data.List.TakeWhile
import ScriptCatalog.Script.Reader

/-! What the reader of commands finds in a text. The main statement, `splitTokens_eq_some_iff`, says
without any count of steps which texts split into which tokens; from it follows that texts which
are read one by one are read the same way behind each other. -/

namespace ScriptCatalog

/-! Where a token ends does not depend on what follows it. -/

theorem skipQuotedTail_local (text rest : List Char) (found : skipQuotedTail text = some rest) :
    ∃ taken, text = taken ++ rest ∧
      ∀ other, skipQuotedTail (taken ++ other) = some other := by
  fun_induction skipQuotedTail text with
  | case1 => simp at found
  | case2 tail =>
      have same : tail = rest := by simpa using found
      subst tail
      exact ⟨['"'], rfl, fun _ => rfl⟩
  | case3 => simp at found
  | case4 c tail ih =>
      obtain ⟨taken, split, anywhere⟩ := ih found
      exact ⟨'\\' :: c :: taken, by rw [split]; rfl, anywhere⟩
  | case5 c tail notQuote notLast notEscape ih =>
      obtain ⟨taken, split, anywhere⟩ := ih found
      refine ⟨c :: taken, by rw [split]; rfl, fun other => ?_⟩
      have notBackslash : c ≠ '\\' := by
        rintro rfl
        cases tail with
        | nil => exact notLast rfl rfl
        | cons next tail => exact notEscape next tail rfl rfl
      rw [List.cons_append, skipQuotedTail]
      · exact anywhere other
      · exact notQuote
      · exact fun backslash => absurd backslash notBackslash
      · exact fun _ _ backslash => absurd backslash notBackslash

theorem skipListTail_quote (depth : Int) (rest : List Char) :
    skipListTail depth ('"' :: rest) = (skipQuotedTail rest).bind (skipListTail depth) := by
  rw [skipListTail]
  split
  · rename_i missing
    rw [missing]
    rfl
  · rename_i after found
    simp only [found, Option.bind_some]

theorem skipListTail_open (depth : Int) (rest : List Char) :
    skipListTail depth ('(' :: rest) = skipListTail (depth + 1) rest := by
  rw [skipListTail]

theorem skipListTail_close (depth : Int) (rest : List Char) :
    skipListTail depth (')' :: rest) =
      if depth = 1 then some rest else skipListTail (depth - 1) rest := by
  rw [skipListTail]

theorem skipListTail_other (depth : Int) (c : Char) (rest : List Char) (notQuote : c ≠ '"')
    (notOpen : c ≠ '(') (notClose : c ≠ ')') :
    skipListTail depth (c :: rest) = skipListTail depth rest := by
  rw [skipListTail]
  · exact notQuote
  · exact notOpen
  · exact notClose

theorem skipListTail_local (depth : Int) (text rest : List Char)
    (found : skipListTail depth text = some rest) :
    ∃ taken, text = taken ++ rest ∧
      ∀ other, skipListTail depth (taken ++ other) = some other := by
  fun_induction skipListTail depth text with
  | case1 => simp at found
  | case2 => simp at found
  | case3 depth tail after quoted _ ih =>
      obtain ⟨inside, inner, quotedAnywhere⟩ := skipQuotedTail_local tail after quoted
      obtain ⟨taken, split, anywhere⟩ := ih found
      refine ⟨'"' :: inside ++ taken, by rw [inner, split]; simp, fun other => ?_⟩
      rw [List.cons_append, List.cons_append, skipListTail_quote, List.append_assoc,
        quotedAnywhere]
      exact anywhere other
  | case4 depth tail ih =>
      obtain ⟨taken, split, anywhere⟩ := ih found
      exact ⟨'(' :: taken, by rw [split]; rfl, fun other => by
        rw [List.cons_append, skipListTail_open, anywhere]⟩
  | case5 tail =>
      have same : tail = rest := by simpa using found
      subst tail
      exact ⟨[')'], rfl, fun other => by rw [List.cons_append, skipListTail_close]; rfl⟩
  | case6 depth tail deeper ih =>
      obtain ⟨taken, split, anywhere⟩ := ih found
      exact ⟨')' :: taken, by rw [split]; rfl, fun other => by
        rw [List.cons_append, skipListTail_close, if_neg deeper, anywhere]⟩
  | case7 depth c tail notQuote notOpen notClose ih =>
      obtain ⟨taken, split, anywhere⟩ := ih found
      exact ⟨c :: taken, by rw [split]; rfl, fun other => by
        rw [List.cons_append, skipListTail_other depth c _ notQuote notOpen notClose, anywhere]⟩

/-- A token that ends where it does, whatever follows it after a blank. -/
structure IsToken (token : List Char) : Prop where
  starts : startsBlank token = false
  ends : ∀ rest, startsBlank rest = true → skipToken (token ++ rest) = some rest

theorem IsToken.not_nil {token : List Char} (valid : IsToken token) : token ≠ [] := by
  rintro rfl
  exact absurd valid.starts (by simp [startsBlank])

theorem dropWhile_nonBlank (rest : List Char) (blank : startsBlank rest = true) :
    rest.dropWhile (fun c => !isBlank c) = rest := by
  cases rest with
  | nil => rfl
  | cons c rest => simp_all [startsBlank]

theorem skipToken_atom (text : List Char) (notQuote : text.head? ≠ some '"')
    (notOpen : text.head? ≠ some '(') (notMark : text.head? ≠ some '\'') :
    skipToken text = some (text.dropWhile fun c => !isBlank c) := by
  rw [skipToken]
  · rintro rest rfl
    exact notQuote rfl
  · rintro rest rfl
    exact notOpen rfl
  · rintro rest rfl
    exact notMark rfl

theorem isToken_of_skipToken (text rest : List Char) (starts : startsBlank text = false)
    (found : skipToken text = some rest) :
    ∃ token, text = token ++ rest ∧ IsToken token := by
  cases text with
  | nil => simp [startsBlank] at starts
  | cons first tail =>
      by_cases quoted : first = '"'
      · subst first
        obtain ⟨taken, split, anywhere⟩ := skipQuotedTail_local tail rest found
        exact ⟨'"' :: taken, by rw [split]; rfl, starts, fun other _ => anywhere other⟩
      by_cases opened : first = '('
      · subst first
        obtain ⟨taken, split, anywhere⟩ := skipListTail_local 1 tail rest found
        exact ⟨'(' :: taken, by rw [split]; rfl, starts, fun other _ => anywhere other⟩
      by_cases marked : first = '\''
      · subst first
        obtain ⟨taken, split, anywhere⟩ := skipListTail_local 0 tail rest found
        exact ⟨'\'' :: taken, by rw [split]; rfl, starts, fun other _ => anywhere other⟩
      have nonBlank : (!isBlank first) = true := by simpa [startsBlank] using starts
      rw [skipToken_atom _ (by simpa using quoted) (by simpa using opened)
        (by simpa using marked)] at found
      have restEq : (first :: tail).dropWhile (fun c => !isBlank c) = rest := by
        simpa using found
      refine ⟨(first :: tail).takeWhile fun c => !isBlank c, ?_, ?_, fun other blank => ?_⟩
      · rw [← restEq, List.takeWhile_append_dropWhile]
      · rw [List.takeWhile_cons, if_pos nonBlank]
        exact starts
      · have head : ((first :: tail).takeWhile (fun c => !isBlank c) ++ other).head? =
            some first := by simp [nonBlank]
        rw [skipToken_atom _ (by simpa [head] using quoted) (by simpa [head] using opened)
          (by simpa [head] using marked), List.dropWhile_append_of_pos,
          dropWhile_nonBlank other blank]
        intro c member
        exact List.all_eq_true.mp List.all_takeWhile c member

/-! Texts that split into tokens. -/

inductive Splits : List Char → List (List Char) → Prop
  | blank {text} : (∀ c ∈ text, isBlank c = true) → Splits text []
  | token {blanks token rest tokens} : (∀ c ∈ blanks, isBlank c = true) → IsToken token →
      startsBlank rest = true → Splits rest tokens →
      Splits (blanks ++ (token ++ rest)) (token :: tokens)

theorem isToken_length_pos {token : List Char} (valid : IsToken token) : 0 < token.length :=
  List.length_pos_iff.mpr valid.not_nil

theorem Splits.length_le {text : List Char} {tokens : List (List Char)}
    (splits : Splits text tokens) : tokens.length ≤ text.length := by
  induction splits with
  | blank => simp
  | token _ valid _ _ ih =>
      have positive := isToken_length_pos valid
      simp only [List.length_cons, List.length_append]
      omega

theorem dropWhile_blanks (blanks token rest : List Char)
    (blank : ∀ c ∈ blanks, isBlank c = true) (valid : IsToken token) :
    (blanks ++ (token ++ rest)).dropWhile isBlank = token ++ rest := by
  rw [List.dropWhile_append_of_pos blank]
  cases token with
  | nil => exact absurd rfl valid.not_nil
  | cons first tail =>
      have starts : isBlank first = false := valid.starts
      simp [starts]

theorem splitTokensUpTo_blank (count : Nat) (text : List Char)
    (blank : ∀ c ∈ text, isBlank c = true) : splitTokensUpTo count text = some [] := by
  have nothing : text.dropWhile isBlank = [] := List.dropWhile_eq_nil_iff.mpr blank
  unfold splitTokensUpTo
  simp [nothing]

theorem splitTokensUpTo_of_splits {text : List Char} {tokens : List (List Char)}
    (splits : Splits text tokens) (count : Nat) (enough : tokens.length ≤ count) :
    splitTokensUpTo count text = some tokens := by
  -- The count bounds the tokens that are left, so it goes down with every one of them.
  induction splits generalizing count with
  | blank blank => exact splitTokensUpTo_blank count _ blank
  | @token blanks token rest tokens blank valid follows _ ih =>
      cases count with
      | zero => simp at enough
      | succ count =>
          have others := ih count (by simpa using enough)
          have notEmpty : (token ++ rest).isEmpty = false := by simp [valid.not_nil]
          unfold splitTokensUpTo
          simp only [dropWhile_blanks blanks token rest blank valid, notEmpty]
          simp [valid.ends rest follows, follows, others]

/-- The step of the reader: blanks, then a token, then what the rest of the text holds. -/
theorem splits_step (text rest : List Char) (tokens : List (List Char))
    (notBlank : text.dropWhile isBlank ≠ [])
    (skipped : skipToken (text.dropWhile isBlank) = some rest) (follows : startsBlank rest = true)
    (others : Splits rest tokens) :
    Splits text ((text.dropWhile isBlank).take
      ((text.dropWhile isBlank).length - rest.length) :: tokens) := by
  have starts : startsBlank (text.dropWhile isBlank) = false := by
    have stopped := List.head_dropWhile_not isBlank notBlank
    cases body : text.dropWhile isBlank with
    | nil => exact absurd body notBlank
    | cons first tail => simpa [body, startsBlank] using stopped
  obtain ⟨token, body, valid⟩ := isToken_of_skipToken _ _ starts skipped
  have tokenEq : (token ++ rest).take ((token ++ rest).length - rest.length) = token := by simp
  have parts : text = text.takeWhile isBlank ++ (token ++ rest) := by
    rw [← body, List.takeWhile_append_dropWhile]
  rw [body, tokenEq, parts]
  exact .token (fun _ member => List.mem_takeWhile_imp member) valid follows others

theorem splits_of_splitTokensUpTo (count : Nat) (text : List Char) (tokens : List (List Char))
    (found : splitTokensUpTo count text = some tokens) : Splits text tokens := by
  induction count generalizing text tokens with
  | zero =>
      unfold splitTokensUpTo at found
      by_cases empty : text.dropWhile isBlank = []
      · simp only [empty, List.isEmpty_nil, ↓reduceIte, Option.some.injEq] at found
        subst tokens
        exact .blank (List.dropWhile_eq_nil_iff.mp empty)
      · simp [empty] at found
  | succ count ih =>
      unfold splitTokensUpTo at found
      by_cases empty : text.dropWhile isBlank = []
      · simp only [empty, List.isEmpty_nil, ↓reduceIte, Option.some.injEq] at found
        subst tokens
        exact .blank (List.dropWhile_eq_nil_iff.mp empty)
      · have notEmpty : (text.dropWhile isBlank).isEmpty = false := by simpa using empty
        simp only [notEmpty, Bool.false_eq_true, ↓reduceIte, Option.bind_eq_bind,
          Option.bind_eq_some_iff] at found
        obtain ⟨rest, skipped, checked⟩ := found
        by_cases follows : startsBlank rest = true
        · simp only [follows, Bool.not_true, Bool.false_eq_true, ↓reduceIte,
            Option.bind_eq_some_iff] at checked
          obtain ⟨others, read, equal⟩ := checked
          have tokensEq := Option.some.inj equal
          rw [← tokensEq]
          exact splits_step text rest others empty skipped follows (ih rest others read)
        · simp [follows] at checked

/-- The tokens of a text are those that it splits into. -/
theorem splitTokens_eq_some_iff (text : List Char) (tokens : List (List Char)) :
    splitTokens text = some tokens ↔ Splits text tokens := by
  constructor
  · exact splits_of_splitTokensUpTo text.length text tokens
  · intro splits
    exact splitTokensUpTo_of_splits splits text.length splits.length_le

/-! Texts behind each other. -/

theorem splits_blank_append {text : List Char} {tokens : List (List Char)} (blanks : List Char)
    (blank : ∀ c ∈ blanks, isBlank c = true) (splits : Splits text tokens) :
    Splits (blanks ++ text) tokens := by
  cases splits with
  | blank allBlank =>
      refine .blank fun c member => ?_
      rcases List.mem_append.mp member with before | inside
      · exact blank c before
      · exact allBlank c inside
  | @token inner token rest tokens innerBlank valid follows others =>
      rw [← List.append_assoc]
      refine .token (fun c member => ?_) valid follows others
      rcases List.mem_append.mp member with before | inside
      · exact blank c before
      · exact innerBlank c inside

theorem startsBlank_append (left right : List Char) (leftBlank : startsBlank left = true)
    (rightBlank : startsBlank right = true) : startsBlank (left ++ right) = true := by
  cases left with
  | nil => exact rightBlank
  | cons c rest => exact leftBlank

theorem Splits.append {left right : List Char} {first second : List (List Char)}
    (leftSplits : Splits left first) (rightSplits : Splits right second)
    (apart : startsBlank right = true) : Splits (left ++ right) (first ++ second) := by
  induction leftSplits with
  | @blank text blank => exact splits_blank_append text blank rightSplits
  | @token blanks token rest tokens blank valid follows _ ih =>
      rw [List.append_assoc, List.append_assoc]
      exact .token blank valid (startsBlank_append rest right follows apart) ih

theorem IsToken.splits {token : List Char} (valid : IsToken token) : Splits token [token] := by
  have alone : Splits ([] ++ (token ++ [])) [token] :=
    .token (by simp) valid rfl (.blank (by simp))
  simpa using alone

theorem splits_flatten (texts : List (List Char)) (tokens : List (List (List Char)))
    (each : List.Forall₂ Splits texts tokens) :
    Splits (texts.flatMap (' ' :: ·)) tokens.flatten := by
  induction each with
  | nil => exact .blank (by simp)
  | @cons text token texts tokens splits _ ih =>
      rw [List.flatMap_cons, List.flatten_cons]
      refine (splits_blank_append [' '] (List.forall_mem_singleton.mpr rfl) splits).append ih ?_
      cases texts with
      | nil => rfl
      | cons next rest => rfl

end ScriptCatalog
