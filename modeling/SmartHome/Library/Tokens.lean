import Mathlib.Data.List.TakeDrop
import SmartHome.Library.CTypes

/-!
# Tokens

`strtok_r` cuts a C string at its separators in place: it skips separators, hands out a
pointer to what follows, and puts a NUL on the separator that ends it. The pointers
stay valid, and what lies behind each of them in the cut text is a piece between separators.
-/

namespace SmartHome.Library.Tokens

open SmartHome.Library.CTypes

set_option autoImplicit false

/-- The memory that `strtok_r` cuts, and where its next call goes on. -/
structure Scan where
  buffer : List UInt8
  save : Nat

def stringAt (buffer : List UInt8) (start : Nat) : List UInt8 := upToNul (buffer.drop start)

/-- One call for one separator. What starts a token is not a separator, so a token is empty only
at the NUL. -/
def strtokR (delim : UInt8) (scan : Scan) : Option Nat × Scan :=
  let start := scan.save + ((stringAt scan.buffer scan.save).takeWhile (· = delim)).length
  let token := (stringAt scan.buffer start).takeWhile (· ≠ delim)
  let stop := start + token.length
  if token = [] then (none, ⟨scan.buffer, start⟩)
  else if scan.buffer[stop]? = some delim then (some start, ⟨scan.buffer.set stop 0, stop + 1⟩)
  else (some start, ⟨scan.buffer, stop⟩)

def strtokLoop (delim : UInt8) : Nat → Scan → List Nat × Scan
  | 0, scan => ([], scan)
  | count + 1, scan =>
      match strtokR delim scan with
      | (none, scan) => ([], scan)
      | (some start, scan) =>
          let (starts, scan) := strtokLoop delim count scan
          (start :: starts, scan)

/-- The pieces between separators, without the empty ones. -/
def tokens (delim : UInt8) (text : List UInt8) : List (List UInt8) :=
  (text.splitOn delim).filter (· ≠ [])

def gap (delim : UInt8) (text : List UInt8) : List UInt8 := text.takeWhile (· = delim)

/-- The text with a NUL in place of the separator behind each of the first `count` tokens. -/
def cut (delim : UInt8) : Nat → List UInt8 → List UInt8
  | 0, text => text
  | count + 1, text =>
      let rest := text.dropWhile (· = delim)
      match rest.dropWhile (· ≠ delim) with
      | [] => text
      | _ :: later =>
          gap delim text ++ (rest.takeWhile (· ≠ delim) ++ 0 :: cut delim count later)

section Strings

variable {front text behind : List UInt8}

theorem string_at_append (front back : List UInt8) (offset : Nat) :
    stringAt (front ++ back) (front.length + offset) = stringAt back offset := by
  rw [stringAt, stringAt, List.drop_append, List.drop_eq_nil_of_le (Nat.le_add_right _ _),
    List.nil_append, Nat.add_sub_cancel_left]

theorem string_at_zero (nonul : (0 : UInt8) ∉ text) :
    stringAt (text ++ 0 :: behind) 0 = text := by
  refine up_to_nul_eq ?_ ?_ nonul
  · rw [List.drop_zero, List.take_left]
  · rw [List.drop_zero, List.getElem?_append_right (Nat.le_refl _), Nat.sub_self,
      List.getElem?_cons_zero]

theorem string_at_eq (nonul : (0 : UInt8) ∉ text) :
    stringAt (front ++ (text ++ 0 :: behind)) front.length = text := by
  have at_ := string_at_append front (text ++ 0 :: behind) 0
  rw [Nat.add_zero] at at_
  rw [at_, string_at_zero nonul]

theorem up_to_nul_split (bytes behind : List UInt8) :
    ∃ later, bytes ++ 0 :: behind = upToNul bytes ++ 0 :: later := by
  unfold upToNul
  induction bytes with
  | nil => exact ⟨behind, rfl⟩
  | cons byte rest induction =>
      rw [List.takeWhile_cons]
      split_ifs with nonzero
      · rcases induction with ⟨later, split⟩
        exact ⟨later, by rw [List.cons_append, split, List.cons_append]⟩
      · have zero : byte = 0 := by simpa using nonzero
        exact ⟨rest ++ 0 :: behind, by rw [zero, List.cons_append, List.nil_append]⟩

theorem up_to_nul_drop {bytes : List UInt8} {offset : Nat}
    (within : offset ≤ (upToNul bytes).length) :
    upToNul (bytes.drop offset) = (upToNul bytes).drop offset := by
  induction offset generalizing bytes with
  | zero => rfl
  | succ offset induction =>
      cases bytes with
      | nil => rfl
      | cons byte rest =>
          unfold upToNul at within ⊢
          rw [List.takeWhile_cons] at within ⊢
          split_ifs at within ⊢ with nonzero
          · exact induction (Nat.le_of_succ_le_succ within)
          · exact absurd within (Nat.not_succ_le_zero offset)

theorem string_at_behind (text behind : List UInt8) {offset : Nat}
    (within : offset ≤ text.length) :
    stringAt (text ++ 0 :: behind) offset = stringAt text offset := by
  rw [stringAt, stringAt, List.drop_append_of_le_length within]
  generalize text.drop offset = bytes
  induction bytes with
  | nil => rfl
  | cons byte rest induction =>
      unfold upToNul at induction ⊢
      rw [List.cons_append, List.takeWhile_cons, List.takeWhile_cons, induction]

theorem string_at_add {buffer : List UInt8} {start offset : Nat}
    (within : offset ≤ (stringAt buffer start).length) :
    stringAt buffer (start + offset) = (stringAt buffer start).drop offset := by
  rw [stringAt, ← List.drop_drop]
  exact up_to_nul_drop within

end Strings

structure Lead (delim : UInt8) where
  gap : List UInt8
  token : List UInt8
  separators : ∀ byte ∈ gap, byte = delim
  nonempty : token ≠ []
  whole : delim ∉ token

namespace Lead

variable {delim : UInt8}

def bytes (lead : Lead delim) : List UInt8 := lead.gap ++ lead.token

theorem token_cons (lead : Lead delim) :
    ∃ first rest, lead.token = first :: rest ∧ first ≠ delim := by
  rcases List.exists_cons_of_ne_nil lead.nonempty with ⟨first, rest, token⟩
  exact ⟨first, rest, token, fun same => lead.whole (token ▸ same ▸ List.mem_cons_self)⟩

theorem gap_take_while (lead : Lead delim) (later : List UInt8) :
    (lead.bytes ++ later).takeWhile (· = delim) = lead.gap := by
  rw [bytes, List.append_assoc, List.takeWhile_append_of_pos fun byte member =>
    decide_eq_true (lead.separators byte member)]
  rcases lead.token_cons with ⟨first, rest, token, other⟩
  rw [token, List.cons_append, List.takeWhile_cons_of_neg (by simpa using other), List.append_nil]

theorem gap_take_while_last (lead : Lead delim) :
    lead.bytes.takeWhile (· = delim) = lead.gap := by
  have taken := lead.gap_take_while []
  rwa [List.append_nil] at taken

theorem gap_drop_while (lead : Lead delim) (later : List UInt8) :
    (lead.bytes ++ later).dropWhile (· = delim) = lead.token ++ later := by
  rw [bytes, List.append_assoc, List.dropWhile_append_of_pos fun byte member =>
    decide_eq_true (lead.separators byte member)]
  rcases lead.token_cons with ⟨first, rest, token, other⟩
  rw [token, List.cons_append, List.dropWhile_cons_of_neg (by simpa using other)]

theorem token_drop_while (lead : Lead delim) (later : List UInt8) :
    (lead.token ++ delim :: later).dropWhile (· ≠ delim) = delim :: later := by
  rw [List.dropWhile_append_of_pos, List.dropWhile_cons_of_neg (by simp)]
  intro byte member
  exact decide_eq_true fun same => lead.whole (same ▸ member)

theorem token_take_while (lead : Lead delim) (later : List UInt8) :
    (lead.token ++ delim :: later).takeWhile (· ≠ delim) = lead.token := by
  rw [List.takeWhile_append_of_pos, List.takeWhile_cons_of_neg (by simp), List.append_nil]
  intro byte member
  exact decide_eq_true fun same => lead.whole (same ▸ member)

theorem token_take_while_last (lead : Lead delim) :
    lead.token.takeWhile (· ≠ delim) = lead.token := by
  rw [List.takeWhile_eq_self_iff]
  intro byte member
  exact decide_eq_true fun same => lead.whole (same ▸ member)

end Lead

/-- Every text is separators only, ends with its first token, or goes on behind it. -/
theorem text_cases (delim : UInt8) (text : List UInt8) :
    (∀ byte ∈ text, byte = delim) ∨ (∃ lead : Lead delim, text = lead.bytes) ∨
      ∃ (lead : Lead delim) (later : List UInt8), text = lead.bytes ++ delim :: later := by
  have gapParts := @List.takeWhile_append_dropWhile _ (· = delim) text
  have separators : ∀ byte ∈ text.takeWhile (· = delim), byte = delim := by
    intro byte member
    have separator := List.mem_takeWhile_imp member
    exact of_decide_eq_true separator
  cases rest : text.dropWhile (· = delim) with
  | nil =>
      left
      rw [rest, List.append_nil] at gapParts
      exact gapParts ▸ separators
  | cons first others =>
      right
      have other : first ≠ delim := by
        have stops := List.head?_dropWhile_not (· = delim) text
        rw [rest] at stops
        simpa using stops
      have tokenParts := @List.takeWhile_append_dropWhile _ (· ≠ delim) (first :: others)
      let lead : Lead delim := {
        gap := text.takeWhile (· = delim)
        token := (first :: others).takeWhile (· ≠ delim)
        separators := separators
        nonempty := by
          rw [List.takeWhile_cons_of_pos (by simpa using other)]
          exact List.cons_ne_nil _ _
        whole := fun member => by
          have nonsep := List.mem_takeWhile_imp member
          simp at nonsep }
      have whole : text = lead.bytes ++ (first :: others).dropWhile (· ≠ delim) := by
        rw [Lead.bytes, List.append_assoc, tokenParts, ← rest, gapParts]
      cases behind : (first :: others).dropWhile (· ≠ delim) with
      | nil => exact .inl ⟨lead, by rw [whole, behind, List.append_nil]⟩
      | cons stop later =>
          have same : stop = delim := by
            have stops := List.head?_dropWhile_not (· ≠ delim) (first :: others)
            rw [behind] at stops
            simpa using stops
          exact .inr ⟨lead, later, by rw [whole, behind, same]⟩

section Views

variable {delim : UInt8} {text : List UInt8}

theorem tokens_cons_delim (delim : UInt8) (text : List UInt8) :
    tokens delim (delim :: text) = tokens delim text := by
  have split := @List.splitOn_append_cons_self _ _ _ delim [] text
  rw [List.nil_append, List.splitOn_nil] at split
  rw [tokens, split]
  rfl

theorem tokens_gap {gap : List UInt8} (separators : ∀ byte ∈ gap, byte = delim) :
    tokens delim (gap ++ text) = tokens delim text := by
  induction gap with
  | nil => rfl
  | cons byte gap induction =>
      rw [separators byte List.mem_cons_self, List.cons_append, tokens_cons_delim,
        induction fun byte member => separators byte (List.mem_cons_of_mem _ member)]

theorem tokens_nil (delim : UInt8) : tokens delim [] = [] := rfl

theorem tokens_separators (separators : ∀ byte ∈ text, byte = delim) :
    tokens delim text = [] := by
  have gap := @tokens_gap delim [] text separators
  rw [List.append_nil, tokens_nil] at gap
  exact gap

theorem tokens_last (lead : Lead delim) : tokens delim lead.bytes = [lead.token] := by
  rw [Lead.bytes, tokens_gap lead.separators, tokens, List.splitOn_eq_singleton lead.whole,
    List.filter_cons_of_pos (by simpa using lead.nonempty)]
  rfl

theorem tokens_lead (lead : Lead delim) (later : List UInt8) :
    tokens delim (lead.bytes ++ delim :: later) = lead.token :: tokens delim later := by
  rw [Lead.bytes, List.append_assoc, tokens_gap lead.separators, tokens,
    List.splitOn_append_cons_self_of_not_mem lead.whole,
    List.filter_cons_of_pos (by simpa using lead.nonempty)]
  rfl

theorem tokens_cons_inv {first : List UInt8} {others : List (List UInt8)}
    (pieces : tokens delim text = first :: others) :
    ∃ lead : Lead delim, lead.token = first ∧
      ((text = lead.bytes ∧ others = []) ∨
        ∃ later, text = lead.bytes ++ delim :: later ∧ tokens delim later = others) := by
  rcases text_cases delim text with separators | ⟨lead, rfl⟩ | ⟨lead, later, rfl⟩
  · rw [tokens_separators separators] at pieces
    cases pieces
  · rw [tokens_last] at pieces
    cases pieces
    exact ⟨lead, rfl, .inl ⟨rfl, rfl⟩⟩
  · rw [tokens_lead] at pieces
    cases pieces
    exact ⟨lead, rfl, .inr ⟨later, rfl, rfl⟩⟩

theorem tokens_word {word : List UInt8} (nonempty : word ≠ []) (whole : delim ∉ word)
    (tail : List UInt8) :
    ∃ others, tokens delim (word ++ tail) = (word ++ tail.takeWhile (· ≠ delim)) :: others := by
  let lead : Lead delim := {
    gap := []
    token := word ++ tail.takeWhile (· ≠ delim)
    separators := fun _ member => absurd member List.not_mem_nil
    nonempty := fun none => nonempty (List.append_eq_nil_iff.mp none).1
    whole := fun member => by
      rcases List.mem_append.mp member with inside | inside
      · exact whole inside
      · have nonsep := List.mem_takeWhile_imp inside
        simp at nonsep }
  have parts := @List.takeWhile_append_dropWhile _ (· ≠ delim) tail
  cases behind : tail.dropWhile (· ≠ delim) with
  | nil =>
      rw [behind, List.append_nil] at parts
      have only := tokens_last lead
      exact ⟨[], by rw [parts]; simpa only [lead, Lead.bytes, List.nil_append, parts] using only⟩
  | cons stop later =>
      have same : stop = delim := by
        have stops := List.head?_dropWhile_not (· ≠ delim) tail
        rw [behind] at stops
        simpa using stops
      have more := tokens_lead lead later
      rw [behind, same] at parts
      refine ⟨tokens delim later, ?_⟩
      rw [← more, Lead.bytes, List.nil_append, List.append_assoc, parts]

theorem cut_separators (separators : ∀ byte ∈ text, byte = delim) (count : Nat) :
    cut delim count text = text := by
  cases count with
  | zero => rfl
  | succ count =>
      have rest : text.dropWhile (· = delim) = [] := by
        rw [List.dropWhile_eq_nil_iff]
        exact fun byte member => decide_eq_true (separators byte member)
      rw [cut, rest]
      rfl

theorem cut_nil (delim : UInt8) (count : Nat) : cut delim count [] = [] :=
  cut_separators (fun _ member => absurd member List.not_mem_nil) count

theorem cut_last (lead : Lead delim) (count : Nat) : cut delim count lead.bytes = lead.bytes := by
  cases count with
  | zero => rfl
  | succ count =>
      have rest := lead.gap_drop_while []
      have stop : lead.token.dropWhile (· ≠ delim) = [] := by
        rw [List.dropWhile_eq_nil_iff]
        exact fun byte member => decide_eq_true fun same => lead.whole (same ▸ member)
      rw [List.append_nil, List.append_nil] at rest
      rw [cut, rest]
      simp only [stop]

theorem cut_lead (lead : Lead delim) (later : List UInt8) (count : Nat) :
    cut delim (count + 1) (lead.bytes ++ delim :: later) =
      lead.bytes ++ 0 :: cut delim count later := by
  rw [cut, lead.gap_drop_while]
  simp only [lead.token_drop_while, lead.token_take_while, gap, lead.gap_take_while]
  rw [Lead.bytes, List.append_assoc]

theorem cut_length (delim : UInt8) (count : Nat) (text : List UInt8) :
    (cut delim count text).length = text.length := by
  induction count generalizing text with
  | zero => rfl
  | succ count induction =>
      rcases text_cases delim text with separators | ⟨lead, rfl⟩ | ⟨lead, later, rfl⟩
      · rw [cut_separators separators]
      · rw [cut_last]
      · rw [cut_lead, List.length_append, List.length_append, List.length_cons, List.length_cons,
          induction]

theorem tokens_length_le {pieces : List (List UInt8)} (same : tokens delim text = pieces) :
    2 * pieces.length ≤ text.length + 1 := by
  induction pieces generalizing text with
  | nil => exact Nat.zero_le _
  | cons first others induction =>
      rcases tokens_cons_inv same with ⟨lead, _, behind⟩
      have token := List.length_pos_iff.mpr lead.nonempty
      rcases behind with ⟨rfl, rfl⟩ | ⟨later, rfl, more⟩
      · rw [Lead.bytes, List.length_append, List.length_singleton]
        omega
      · have rest := induction more
        rw [Lead.bytes, List.length_append, List.length_append, List.length_cons, List.length_cons]
        omega

theorem gap_length_le {first : List UInt8} {others : List (List UInt8)}
    (pieces : tokens delim text = first :: others) :
    (gap delim text).length + first.length + 2 * others.length ≤ text.length := by
  rcases tokens_cons_inv pieces with ⟨lead, rfl, ⟨rfl, rfl⟩ | ⟨later, rfl, more⟩⟩
  · rw [gap, lead.gap_take_while_last, Lead.bytes, List.length_append, List.length_nil]
    omega
  · have rest := tokens_length_le more
    rw [gap, lead.gap_take_while, Lead.bytes, List.length_append, List.length_append,
      List.length_cons]
    omega

end Views

section Calls

variable {delim : UInt8} {front behind text : List UInt8}

theorem strtok_r_separators (nonul : (0 : UInt8) ∉ text)
    (separators : ∀ byte ∈ text, byte = delim) :
    strtokR delim ⟨front ++ (text ++ 0 :: behind), front.length⟩ =
      (none, ⟨front ++ (text ++ 0 :: behind), front.length + text.length⟩) := by
  have skipped : text.takeWhile (· = delim) = text := by
    rw [List.takeWhile_eq_self_iff]
    exact fun byte member => decide_eq_true (separators byte member)
  have end_ : stringAt (front ++ (text ++ 0 :: behind)) (front.length + text.length) = [] := by
    rw [string_at_append]
    exact @string_at_eq text [] behind List.not_mem_nil
  unfold strtokR
  simp only [string_at_eq nonul, skipped, end_, List.takeWhile_nil, if_true]

theorem string_at_token (front behind : List UInt8) (lead : Lead delim) {later : List UInt8}
    (nonul : (0 : UInt8) ∉ lead.token ++ later) :
    stringAt (front ++ (lead.bytes ++ (later ++ 0 :: behind)))
      (front.length + lead.gap.length) = lead.token ++ later := by
  rw [string_at_append, Lead.bytes, List.append_assoc, ← List.append_assoc lead.token]
  exact string_at_eq nonul

theorem string_at_token_last (front behind : List UInt8) (lead : Lead delim)
    (nonul : (0 : UInt8) ∉ lead.bytes) :
    stringAt (front ++ (lead.bytes ++ 0 :: behind)) (front.length + lead.gap.length) =
      lead.token := by
  have token := @string_at_token delim front behind lead []
  rw [List.append_nil, List.nil_append] at token
  exact token fun member => nonul (List.mem_append_right _ member)

theorem strtok_r_last (lead : Lead delim) (nonul : (0 : UInt8) ∉ lead.bytes)
    (nonzero : delim ≠ 0) :
    strtokR delim ⟨front ++ (lead.bytes ++ 0 :: behind), front.length⟩ =
      (some (front.length + lead.gap.length),
        ⟨(front ++ lead.bytes) ++ ([] ++ 0 :: behind), (front ++ lead.bytes).length⟩) := by
  have skipped := lead.gap_take_while_last
  have token := string_at_token_last front behind lead nonul
  have length : front.length + lead.gap.length + lead.token.length =
      (front ++ lead.bytes).length := by
    rw [Lead.bytes, List.length_append, List.length_append, Nat.add_assoc]
  have stop : (front ++ (lead.bytes ++ 0 :: behind))[(front ++ lead.bytes).length]? = some 0 := by
    rw [← List.append_assoc, List.getElem?_append_right (Nat.le_refl _), Nat.sub_self,
      List.getElem?_cons_zero]
  unfold strtokR
  simp only [string_at_eq nonul, skipped, token, lead.token_take_while_last, lead.nonempty,
    if_false, length, stop]
  rw [if_neg fun same => nonzero (Option.some.inj same).symm, List.nil_append, List.append_assoc]

theorem strtok_r_lead (lead : Lead delim) {later : List UInt8}
    (nonul : (0 : UInt8) ∉ lead.bytes ++ delim :: later) :
    strtokR delim ⟨front ++ (lead.bytes ++ delim :: later ++ 0 :: behind), front.length⟩ =
      (some (front.length + lead.gap.length),
        ⟨(front ++ lead.bytes ++ [0]) ++ (later ++ 0 :: behind),
          (front ++ lead.bytes ++ [0]).length⟩) := by
  have token := @string_at_token delim front behind lead (delim :: later) fun member => nonul (by
    rw [Lead.bytes, List.append_assoc]
    exact List.mem_append_right _ member)
  rw [← List.append_assoc lead.bytes] at token
  have length : front.length + lead.gap.length + lead.token.length =
      (front ++ lead.bytes).length := by
    rw [Lead.bytes, List.length_append, List.length_append, Nat.add_assoc]
  have memory : front ++ (lead.bytes ++ delim :: later ++ 0 :: behind) =
      (front ++ lead.bytes) ++ delim :: (later ++ 0 :: behind) := by
    rw [List.append_assoc, List.append_assoc, List.cons_append]
  have stop : (front ++ (lead.bytes ++ delim :: later ++ 0 :: behind))[
      (front ++ lead.bytes).length]? = some delim := by
    rw [memory, List.getElem?_append_right (Nat.le_refl _), Nat.sub_self,
      List.getElem?_cons_zero]
  have written : (front ++ (lead.bytes ++ delim :: later ++ 0 :: behind)).set
      (front ++ lead.bytes).length 0 = (front ++ lead.bytes ++ [0]) ++ (later ++ 0 :: behind) := by
    rw [memory, List.set_append_right _ _ (Nat.le_refl _), Nat.sub_self, List.set_cons_zero,
      List.append_assoc (front ++ lead.bytes), List.singleton_append]
  unfold strtokR
  simp only [string_at_eq nonul, lead.gap_take_while, token, lead.token_take_while, lead.nonempty,
    if_false, length, stop, if_true, written]
  have behindNul : (front ++ lead.bytes ++ [0]).length = (front ++ lead.bytes).length + 1 :=
    List.length_append
  rw [behindNul]

theorem strtok_loop_none {scan next : Scan} (call : strtokR delim scan = (none, next))
    (count : Nat) : strtokLoop delim (count + 1) scan = ([], next) := by
  rw [strtokLoop, call]

theorem strtok_loop_some {scan next : Scan} {start : Nat}
    (call : strtokR delim scan = (some start, next)) (count : Nat) :
    strtokLoop delim (count + 1) scan =
      (start :: (strtokLoop delim count next).1, (strtokLoop delim count next).2) := by
  rw [strtokLoop, call]

theorem strtok_loop_buffer (nonzero : delim ≠ 0) (count : Nat) (nonul : (0 : UInt8) ∉ text) :
    (strtokLoop delim count ⟨front ++ (text ++ 0 :: behind), front.length⟩).2.buffer =
      front ++ (cut delim count text ++ 0 :: behind) := by
  induction count generalizing front text with
  | zero => rfl
  | succ count induction =>
      rcases text_cases delim text with separators | ⟨lead, rfl⟩ | ⟨lead, later, rfl⟩
      · rw [strtok_loop_none (strtok_r_separators nonul separators), cut_separators separators]
      · rw [strtok_loop_some (strtok_r_last lead nonul nonzero), cut_last]
        have others := @induction (front ++ lead.bytes) [] List.not_mem_nil
        rw [cut_nil] at others
        rw [others, List.append_assoc, List.nil_append]
      · have nonulLater : (0 : UInt8) ∉ later := fun member =>
          nonul (List.mem_append_right _ (List.mem_cons_of_mem _ member))
        rw [strtok_loop_some (strtok_r_lead lead nonul), cut_lead, induction nonulLater]
        simp only [List.append_assoc, List.cons_append, List.nil_append]

/-- The strings at the pointers that the calls return are the first tokens of the text. -/
theorem strtok_loop_tokens (nonzero : delim ≠ 0) (count : Nat) (nonul : (0 : UInt8) ∉ text) :
    (strtokLoop delim count ⟨front ++ (text ++ 0 :: behind), front.length⟩).1.map
        (stringAt (front ++ (cut delim count text ++ 0 :: behind))) =
      (tokens delim text).take count := by
  induction count generalizing front text with
  | zero => rfl
  | succ count induction =>
      rcases text_cases delim text with separators | ⟨lead, rfl⟩ | ⟨lead, later, rfl⟩
      · rw [strtok_loop_none (strtok_r_separators nonul separators), tokens_separators separators]
        rfl
      · have first := string_at_token_last front behind lead nonul
        have others := @induction (front ++ lead.bytes) [] List.not_mem_nil
        rw [tokens_nil, List.take_nil, List.map_eq_nil_iff] at others
        rw [strtok_loop_some (strtok_r_last lead nonul nonzero), cut_last, tokens_last, others,
          List.map_cons, List.map_nil, first, List.take_succ_cons, List.take_nil]
      · have nonulLater : (0 : UInt8) ∉ later := fun member =>
          nonul (List.mem_append_right _ (List.mem_cons_of_mem _ member))
        have first := string_at_token_last front (cut delim count later ++ 0 :: behind) lead
          fun member => nonul (List.mem_append_left _ member)
        have others := @induction (front ++ lead.bytes ++ [0]) later nonulLater
        rw [strtok_loop_some (strtok_r_lead lead nonul), cut_lead, tokens_lead, List.map_cons,
          List.take_succ_cons]
        rw [List.append_assoc, List.append_assoc] at others
        rw [List.append_assoc lead.bytes, List.cons_append, first]
        exact congrArg _ others

theorem strtok_loop_first (nonzero : delim ≠ 0) (count : Nat) (nonul : (0 : UInt8) ∉ text)
    {start : Nat} {others : List Nat}
    (starts : (strtokLoop delim count ⟨front ++ (text ++ 0 :: behind), front.length⟩).1 =
      start :: others) : start = front.length + (gap delim text).length := by
  cases count with
  | zero => cases starts
  | succ count =>
      rcases text_cases delim text with separators | ⟨lead, rfl⟩ | ⟨lead, later, rfl⟩
      · rw [strtok_loop_none (strtok_r_separators nonul separators)] at starts
        cases starts
      · rw [strtok_loop_some (strtok_r_last lead nonul nonzero)] at starts
        rw [gap, lead.gap_take_while_last]
        exact (List.cons.inj starts).1.symm
      · rw [strtok_loop_some (strtok_r_lead lead nonul)] at starts
        rw [gap, lead.gap_take_while]
        exact (List.cons.inj starts).1.symm

/-- The calls on a text at the front of its buffer. -/
theorem strtok_calls (nonzero : delim ≠ 0) (count : Nat) (behind : List UInt8)
    (nonul : (0 : UInt8) ∉ text) :
    (strtokLoop delim count ⟨text ++ 0 :: behind, 0⟩).2.buffer =
        cut delim count text ++ 0 :: behind ∧
      (strtokLoop delim count ⟨text ++ 0 :: behind, 0⟩).1.map
          (stringAt (cut delim count text ++ 0 :: behind)) = (tokens delim text).take count ∧
        ∀ start ∈ (strtokLoop delim count ⟨text ++ 0 :: behind, 0⟩).1.head?,
          start = (gap delim text).length := by
  refine ⟨@strtok_loop_buffer delim [] behind text nonzero count nonul,
    @strtok_loop_tokens delim [] behind text nonzero count nonul, fun start first => ?_⟩
  rcases List.head?_eq_some_iff.mp first with ⟨others, starts⟩
  rw [@strtok_loop_first delim [] behind text nonzero count nonul start others starts,
    List.length_nil, Nat.zero_add]

end Calls

end SmartHome.Library.Tokens
