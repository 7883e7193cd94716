import GrammarKit.Proofs.Json.Texts

/-!
# Passing over JSON texts

A value that nobody asks for is passed over to its end, and no further, if it is well formed. The
reader that passes over it goes sign by sign with a stack of the containers that are open. What it
does with a value does not depend on them: behind the value it is where it was, with the next sign
to come, and so the induction follows the text and not the stack.
-/

namespace GrammarKit

namespace JsonReader

open Reader JsonText

/-! ### Passing over numbers and strings -/

/-- Where a value may end, digits do not go on. -/
theorem EndsValue.stops_isDigit {rest : List Char} (h : EndsValue rest) :
    Stops Char.isDigit rest := by
  intro c hc
  cases hdigit : c.isDigit with
  | false => rfl
  | true =>
    obtain ⟨hspace, hclosing, hcomma⟩ := isSpace_of_isDigit hdigit
    obtain hs | rfl | rfl | rfl := h c hc
    · rw [hspace] at hs
      cases hs
    · exact absurd rfl hcomma
    · exact absurd rfl hclosing
    · cases hdigit

/-- Where a value may end, no sign of a number goes on. -/
theorem EndsValue.head?_ne {rest : List Char} (h : EndsValue rest) {c : Char}
    (hc : c ∈ ['.', 'e', 'E']) : rest.head? ≠ some c := by
  intro hhead
  obtain ⟨hspace, hcomma, hclosing, hbrace⟩ :
      isSpace c = false ∧ c ≠ ',' ∧ c ≠ ']' ∧ c ≠ '\x7d' := by
    simp only [List.mem_cons, List.not_mem_nil, or_false] at hc
    obtain rfl | rfl | rfl := hc <;> decide
  obtain hs | hs | hs | hs := h c hhead
  · rw [hspace] at hs
    cases hs
  · exact hcomma hs
  · exact hclosing hs
  · exact hbrace hs

theorem run_skipDigits {ds rest : List Char} (hds : Digits ds) (hrest : Stops Char.isDigit rest) :
    skipDigits.run (ds ++ rest) = .ok ((), rest) := by
  have hempty : ds.isEmpty = false := by simpa using hds.1
  rw [skipDigits, run_bind_ok (run_takeWhile hds.2 hrest), hempty]
  rfl

/-- Digits do not begin with a sign. -/
theorem head?_ne_of_digits {ds : List Char} (hds : Digits ds) {c : Char} (hc : c.isDigit = false)
    (rest : List Char) : (ds ++ rest).head? ≠ some c := by
  obtain ⟨hne, hdigits⟩ := hds
  cases ds with
  | nil => exact absurd rfl hne
  | cons d ds =>
    intro hhead
    cases hhead
    rw [hdigits c List.mem_cons_self] at hc
    cases hc

/-- Digits do not go on where an exponent comes, or none does. -/
theorem stops_isDigit_exponent {exponent rest : List Char} (hexponent : ExponentText exponent)
    (hrest : EndsValue rest) : Stops Char.isDigit (exponent ++ rest) := by
  obtain rfl | ⟨e, sign, ds, he, -, -, rfl⟩ := hexponent
  · exact hrest.stops_isDigit
  · obtain rfl | rfl := he <;> exact stops_cons _ rfl

/-- The fraction and the exponent of a number are passed over. -/
theorem run_skipNumberTail {fraction exponent rest : List Char} (hfraction : FractionText fraction)
    (hexponent : ExponentText exponent) (hrest : EndsValue rest) :
    skipNumberTail.run (fraction ++ (exponent ++ rest)) = .ok ((), rest) := by
  unfold skipNumberTail
  extract_lets afterFraction
  have hafter : (afterFraction ()).run (exponent ++ rest) = .ok ((), rest) := by
    obtain rfl | ⟨e, sign, ds, he, hsign, hds, rfl⟩ := hexponent
    · rw [List.nil_append, run_bind_ok (run_peek _)]
      split
      · next h => exact absurd h (hrest.head?_ne (by decide))
      · next h => exact absurd h (hrest.head?_ne (by decide))
      · rw [run_pure]
    · have hdigits := run_skipDigits hds hrest.stops_isDigit
      rw [List.cons_append, List.append_assoc, run_bind_ok (run_peek _)]
      obtain rfl | rfl := he <;> obtain rfl | rfl | rfl := hsign
      all_goals
        simp only [List.head?_cons]
        rw [run_bind_ok (run_drop 1 _), run_bind_ok (run_peek _)]
      all_goals try exact hdigits
      all_goals
        split
        · next h => exact absurd h (head?_ne_of_digits hds rfl rest)
        · next h => exact absurd h (head?_ne_of_digits hds rfl rest)
        · exact hdigits
  have hstops := stops_isDigit_exponent hexponent hrest
  obtain rfl | ⟨ds, hds, rfl⟩ := hfraction
  · have hpoint : (exponent ++ rest).head? ≠ some '.' := by
      obtain rfl | ⟨e, sign, ds, he, -, -, rfl⟩ := hexponent
      · exact hrest.head?_ne (by decide)
      · obtain rfl | rfl := he <;> simp
    rw [List.nil_append, run_bind_ok (run_eat_of_head_ne hpoint)]
    exact hafter
  · have heat : (eat ['.'] : JsonReader Bool).run ('.' :: (ds ++ (exponent ++ rest))) =
        .ok (true, ds ++ (exponent ++ rest)) := run_eat ['.'] _
    rw [List.cons_append, run_bind_ok heat, if_pos rfl, run_bind_ok (run_skipDigits hds hstops)]
    exact hafter

/-- A number is passed over, from behind its sign and its first digit. -/
theorem run_skipNumber {d : Char} {ds fraction exponent rest : List Char}
    (hwhole : WholeText (d :: ds)) (hfraction : FractionText fraction)
    (hexponent : ExponentText exponent) (hrest : EndsValue rest) :
    (skipNumber d).run (ds ++ (fraction ++ (exponent ++ rest))) = .ok ((), rest) := by
  have hstops : Stops Char.isDigit (fraction ++ (exponent ++ rest)) := by
    obtain rfl | ⟨ds', -, rfl⟩ := hfraction
    · rw [List.nil_append]
      exact stops_isDigit_exponent hexponent hrest
    · exact stops_cons _ rfl
  have hzero : ¬ (d = '0' ∧ (!ds.isEmpty) = true) := by
    rintro ⟨rfl, hmore⟩
    have hds : ds = [] := List.tail_eq_of_cons_eq (hwhole.2 rfl)
    rw [hds] at hmore
    cases hmore
  have hdigits : ∀ c ∈ ds, c.isDigit = true := fun c hc =>
    hwhole.1.2 c (List.mem_cons_of_mem d hc)
  rw [skipNumber, run_bind_ok (run_takeWhile hdigits hstops), if_neg hzero,
    run_skipNumberTail hfraction hexponent hrest]

/-- Whichever text of a character it is, it is passed over. -/
theorem run_loop_skip_charText {text : List Char} {c : Char} (h : CharText text c)
    (rest : List Char) :
    (loop skipStringStep atEnd ()).run (text ++ rest) = (loop skipStringStep atEnd ()).run rest := by
  have hescape {cs cs' : List Char} (hskip : skipEscape.run cs = .ok ((), cs')) :
      (loop skipStringStep atEnd ()).run ('\\' :: cs) = (loop skipStringStep atEnd ()).run cs' := by
    apply run_loop_next
    rw [skipStringStep, if_neg (by decide), if_pos rfl, run_bind_ok hskip, run_pure]
  have hnumber {ds : List Char} {n : Nat} (h : HexFour ds n) (cs : List Char) :
      skipEscape.run ('u' :: (ds ++ cs)) = .ok ((), cs) := by
    rw [skipEscape, run_bind_ok (run_char _ _), if_pos rfl, run_bind_ok (run_hexFour h cs), run_pure]
  cases h with
  | plain hquote hbackslash hcontrol =>
    apply run_loop_next
    rw [skipStringStep, if_neg hquote, if_neg hbackslash, if_neg (Nat.not_lt.2 hcontrol), run_pure]
    rfl
  | @letter l _ h =>
    obtain ⟨hu, hletter⟩ := letterEscape?_of_mem h
    refine hescape ?_
    change skipEscape.run (l :: rest) = _
    rw [skipEscape, run_bind_ok (run_char _ _), if_neg hu, hletter]
    rfl
  | number h => exact hescape (hnumber h rest)
  | pair hi hj hds hes hc =>
    rw [List.cons_append, List.cons_append, List.append_assoc, hescape (hnumber hds _)]
    exact hescape (hnumber hes rest)

/-- A string is passed over, from behind its opening quote. -/
theorem run_skipString {body cs : List Char} (h : CharTexts body cs) (rest : List Char) :
    skipString.run (body ++ '"' :: rest) = .ok ((), rest) := by
  rw [skipString]
  induction h with
  | nil =>
    apply run_loop_done
    rw [skipStringStep, if_pos rfl, run_pure]
  | cons hc _ ih => rw [List.append_assoc, run_loop_skip_charText hc, ih]

/-! ### Passing over values -/

/-- What is done behind a value that has been passed over: all is over, or the innermost container
goes on. -/
def behindValue (stack : List Container) (rest : List Char) : Except JsonError (Unit × List Char) :=
  match valueOver stack with
  | .inl state => (loop skipStep atEnd state).run rest
  | .inr () => .ok ((), rest)

/-- A round that comes to the end of a value leads behind it. -/
theorem run_loop_valueOver {state : List Container × Expected} {stack : List Container} {c : Char}
    {cs rest : List Char} (h : (skipStep state c).run cs = .ok (valueOver stack, rest)) :
    (loop skipStep atEnd state).run (c :: cs) = behindValue stack rest := by
  cases stack with
  | nil => exact run_loop_done h
  | cons container stack => exact run_loop_next h

/-- Where a value is to come, white space is passed over and the value begins with its first sign. -/
theorem skipStep_value (stack : List Container) {c : Char} (hc : isSpace c = false) :
    skipStep (stack, .value) c = skipValueStart stack c := by
  rw [skipStep, if_neg (by rw [hc]; exact Bool.false_ne_true)]

theorem skipStep_space (state : List Container × Expected) {c : Char} (hc : isSpace c = true) :
    skipStep state c = pure (.inl state) := by
  unfold skipStep
  rw [if_pos hc]

/-- The first item of an array is a value like any other. -/
theorem run_loop_first {text : List Char} (h : ValueText text) (stack : List Container)
    (rest : List Char) :
    (loop skipStep atEnd (.array :: stack, .first)).run (text ++ rest) =
      (loop skipStep atEnd (.array :: stack, .value)).run (text ++ rest) := by
  obtain ⟨c, cs, rfl, hspace, hclosing, -⟩ := h.exists_cons
  have hstep : skipStep (.array :: stack, .first) c = skipStep (.array :: stack, .value) c := by
    rw [skipStep_value _ hspace]
    simp only [skipStep, hspace, Bool.false_eq_true, if_false, hclosing]
  rw [List.cons_append, loop_cons, loop_cons, hstep]

/-- The name of a member and the colon behind it are passed over. -/
theorem run_skipKey {body name before rest : List Char} (hbody : CharTexts body name)
    (hbefore : Spaces before) (stack : List Container) :
    (skipKey stack '"').run (body ++ '"' :: (before ++ ':' :: rest)) =
      .ok (.inl (stack, .value), rest) := by
  rw [skipKey, if_neg (by decide), run_bind_ok (run_skipString hbody _),
    run_bind_ok (run_signChar _ hbefore rfl), if_pos rfl, run_pure]

/-- A digit begins a number. -/
theorem skipValueStart_of_isDigit (stack : List Container) {c : Char} (hc : c.isDigit = true) :
    skipValueStart stack c = (do skipNumber c; return valueOver stack) := by
  unfold skipValueStart
  split
  case h_8 => exact if_pos hc
  all_goals cases hc

/-- Where a value is to come, the text is passed over to its end, whatever containers are around
it. -/
def PassedOver (text : List Char) : Prop :=
  ∀ stack rest, EndsValue rest →
    (loop skipStep atEnd (stack, .value)).run (text ++ rest) = behindValue stack rest

theorem passedOver_number {text : List Char} (h : NumberText text) : PassedOver text := by
  intro stack rest hrest
  obtain ⟨sign, whole, fraction, exponent, hsign, hwhole, hfraction, hexponent, rfl⟩ := h
  cases whole with
  | nil => exact absurd rfl hwhole.1.1
  | cons d ds =>
    have hdigit : d.isDigit = true := hwhole.1.2 d List.mem_cons_self
    have hskip := run_skipNumber hwhole hfraction hexponent hrest
    obtain rfl | rfl := hsign <;> simp only [List.append_assoc, List.cons_append, List.nil_append]
    · refine run_loop_valueOver ?_
      rw [skipStep_value _ (isSpace_of_isDigit hdigit).1, skipValueStart_of_isDigit stack hdigit,
        run_bind_ok hskip, run_pure]
    · refine run_loop_valueOver ?_
      rw [skipStep_value _ (by decide)]
      change (if d.isDigit then do skipNumber d; return valueOver stack else malformed :
        JsonReader _).run _ = _
      rw [if_pos hdigit, List.tail_cons, run_bind_ok hskip, run_pure]

theorem passedOver_string {text : List Char} {s : String} (h : StringText text s) :
    PassedOver text := by
  intro stack rest _
  obtain ⟨body, rfl, hbody⟩ := h
  rw [List.cons_append, List.append_assoc, List.singleton_append]
  refine run_loop_valueOver ?_
  rw [skipStep_value _ (by decide)]
  change (skipString >>= fun _ => pure (valueOver stack)).run _ = _
  rw [run_bind_ok (run_skipString hbody rest), run_pure]

/-- Behind an item of an array the others are passed over, and the end of the array. -/
theorem run_loop_moreItems {items : List (List Char)} {inner : List Char}
    (h : MoreParts ']' Eq items inner) (hitems : ∀ item ∈ items, PassedOver item)
    (stack : List Container) (rest : List Char) :
    (loop skipStep atEnd (.array :: stack, .more)).run (inner ++ rest) = behindValue stack rest := by
  induction h with
  | close hws =>
    rw [List.append_assoc, run_loop_skip _ fun w hw => skipStep_space _ (hws w hw)]
    exact run_loop_valueOver rfl
  | @part item items before behind text more hbefore hbehind hpart hmore ih =>
    subst hpart
    have hcomma (cs : List Char) : (skipStep (.array :: stack, .more) ',').run cs =
        .ok (.inl (.array :: stack, .value), cs) := rfl
    simp only [List.append_assoc, List.cons_append]
    rw [run_loop_skip _ fun w hw => skipStep_space _ (hbefore w hw), run_loop_next (hcomma _),
      run_loop_skip _ fun w hw => skipStep_space _ (hbehind w hw),
      hitems item List.mem_cons_self _ _ (hmore.endsValue (.inl rfl) rest)]
    exact ih fun item' hitem => hitems item' (List.mem_cons_of_mem item hitem)

theorem passedOver_array {items : List (List Char)} {text : List Char} (h : ArrayText items text)
    (hvalues : ∀ item ∈ items, ValueText item) (hitems : ∀ item ∈ items, PassedOver item) :
    PassedOver text := by
  intro stack rest _
  obtain ⟨inner, rfl, hparts⟩ := h
  have hopen (cs : List Char) : (skipStep (stack, .value) '[').run cs =
      .ok (.inl (.array :: stack, .first), cs) := rfl
  rw [List.cons_append, run_loop_next (hopen _)]
  cases hparts with
  | empty hws =>
    rw [List.append_assoc, run_loop_skip _ fun w hw => skipStep_space _ (hws w hw)]
    exact run_loop_valueOver rfl
  | @first item items ws text more hws hpart hmore =>
    subst hpart
    simp only [List.append_assoc]
    rw [run_loop_skip _ fun w hw => skipStep_space _ (hws w hw),
      run_loop_first (hvalues item List.mem_cons_self),
      hitems item List.mem_cons_self _ _ (hmore.endsValue (.inl rfl) rest)]
    exact run_loop_moreItems hmore
      (fun item' hitem => hitems item' (List.mem_cons_of_mem item hitem)) stack rest

/-- A member of an object is passed over. -/
theorem run_loop_member {stack : List Container} {state : List Container × Expected}
    {m : String × List Char} {text rest : List Char}
    (hstate : skipStep state '"' = skipKey stack '"') (h : MemberText m text)
    (hvalue : PassedOver m.2) (hrest : EndsValue rest) :
    (loop skipStep atEnd state).run (text ++ rest) = behindValue stack rest := by
  obtain ⟨nameText, before, behind, ⟨body, rfl, hbody⟩, hbefore, hbehind, rfl⟩ := h
  have hkey : (skipKey stack '"').run
      (body ++ '"' :: (before ++ ':' :: (behind ++ (m.2 ++ rest)))) =
        .ok (.inl (stack, .value), behind ++ (m.2 ++ rest)) := run_skipKey hbody hbefore stack
  rw [← hstate] at hkey
  simp only [List.append_assoc, List.cons_append, List.nil_append]
  rw [run_loop_next hkey, run_loop_skip _ fun w hw => skipStep_space _ (hbehind w hw),
    hvalue stack rest hrest]

/-- Behind a member of an object the others are passed over, and the end of the object. -/
theorem run_loop_moreMembers {members : List (String × List Char)} {inner : List Char}
    (h : MoreParts '\x7d' MemberText members inner) (hvalues : ∀ m ∈ members, PassedOver m.2)
    (stack : List Container) (rest : List Char) :
    (loop skipStep atEnd (.object :: stack, .more)).run (inner ++ rest) = behindValue stack rest := by
  induction h with
  | close hws =>
    rw [List.append_assoc, run_loop_skip _ fun w hw => skipStep_space _ (hws w hw)]
    exact run_loop_valueOver rfl
  | @part m members before behind text more hbefore hbehind hpart hmore ih =>
    have hcomma (cs : List Char) : (skipStep (.object :: stack, .more) ',').run cs =
        .ok (.inl (.object :: stack, .key), cs) := rfl
    simp only [List.append_assoc, List.cons_append]
    rw [run_loop_skip _ fun w hw => skipStep_space _ (hbefore w hw), run_loop_next (hcomma _),
      run_loop_skip _ fun w hw => skipStep_space _ (hbehind w hw),
      run_loop_member rfl hpart (hvalues m List.mem_cons_self) (hmore.endsValue (.inr rfl) rest)]
    exact ih fun m' hm => hvalues m' (List.mem_cons_of_mem m hm)

theorem passedOver_object {members : List (String × List Char)} {text : List Char}
    (h : ObjectText members text) (hvalues : ∀ m ∈ members, PassedOver m.2) : PassedOver text := by
  intro stack rest _
  obtain ⟨inner, rfl, hparts⟩ := h
  have hopen (cs : List Char) : (skipStep (stack, .value) '\x7b').run cs =
      .ok (.inl (.object :: stack, .first), cs) := rfl
  rw [List.cons_append, run_loop_next (hopen _)]
  cases hparts with
  | empty hws =>
    rw [List.append_assoc, run_loop_skip _ fun w hw => skipStep_space _ (hws w hw)]
    exact run_loop_valueOver rfl
  | @first m members ws text more hws hpart hmore =>
    simp only [List.append_assoc]
    rw [run_loop_skip _ fun w hw => skipStep_space _ (hws w hw),
      run_loop_member rfl hpart (hvalues m List.mem_cons_self) (hmore.endsValue (.inr rfl) rest)]
    exact run_loop_moreMembers hmore (fun m' hm => hvalues m' (List.mem_cons_of_mem m hm)) stack rest

/-- Every well-formed value is passed over to its end. -/
theorem passedOver_of_valueText {text : List Char} (h : ValueText text) : PassedOver text := by
  induction h with
  | null => exact fun stack rest _ => run_loop_valueOver rfl
  | bool b => cases b <;> exact fun stack rest _ => run_loop_valueOver rfl
  | number h => exact passedOver_number h
  | string h => exact passedOver_string h
  | array h hitems ih => exact passedOver_array h hitems ih
  | object h hvalues ih => exact passedOver_object h ih

/-- A value that nobody asks for is passed over to its end, and no further. -/
theorem run_skipValue {text : List Char} (h : ValueText text) {ws rest : List Char}
    (hws : Spaces ws) (hrest : EndsValue rest) :
    skipValue.run (ws ++ (text ++ rest)) = .ok ((), rest) := by
  rw [skipValue, run_loop_skip _ fun w hw => skipStep_space _ (hws w hw),
    passedOver_of_valueText h [] rest hrest]
  rfl

end JsonReader

end GrammarKit
