import Mathlib.Data.List.TakeWhile
import PhotonFerry.Endpoint.Broker
/-!
# The parts of an endpoint

A text with a colon is a host, a last colon and what follows it. Brackets around a host are
left out, and so is a scheme before it.
-/

namespace PhotonFerry.Endpoint

variable {text host last : List Char}

/-! ## Colons -/

/-- A text is split at the colon behind which there is no other. -/
theorem splitLastColon?_append (host : List Char) (colonless : ':' ∉ last) :
    splitLastColon? (host ++ ':' :: last) = some (host, last) := by
  have after : (host ++ ':' :: last).reverse.takeWhile (· ≠ ':') = last.reverse := by
    have all : ∀ char ∈ last.reverse, decide (char ≠ ':') = true := fun char member =>
      decide_eq_true fun colon => colonless (colon ▸ List.mem_reverse.mp member)
    rw [List.reverse_append, List.reverse_cons, List.append_assoc,
      List.takeWhile_append_of_pos all]
    simp
  have longer : ¬ last.length = (host ++ ':' :: last).length := by
    rw [List.length_append, List.length_cons]
    omega
  have front : (host ++ ':' :: last).length - last.length - 1 = host.length := by
    rw [List.length_append, List.length_cons]
    omega
  rw [splitLastColon?, after, List.reverse_reverse]
  simp only [if_neg longer, front, List.take_left]

/-- Without a colon there is no host. -/
theorem splitLastColon?_of_notMem (colonless : ':' ∉ text) : splitLastColon? text = none := by
  have all : text.reverse.takeWhile (· ≠ ':') = text.reverse :=
    List.takeWhile_eq_self_iff.mpr fun char member =>
      decide_eq_true fun colon => colonless (colon ▸ List.mem_reverse.mp member)
  rw [splitLastColon?, all, List.reverse_reverse]
  exact if_pos rfl

/-- A text with a colon has a last one. -/
theorem exists_last_colon (colon : ':' ∈ text) :
    ∃ host last, text = host ++ ':' :: last ∧ ':' ∉ last := by
  obtain ⟨last, host, reversed, colonless⟩ :=
    List.eq_append_cons_of_mem (List.mem_reverse.mpr colon)
  refine ⟨host.reverse, last.reverse, ?_, fun member => colonless (List.mem_reverse.mp member)⟩
  rw [← List.reverse_reverse text, reversed]
  simp

/-! ## Brackets and schemes -/

/-- A text that begins otherwise has no such beginning. -/
theorem stripFront?_of_head? {first : Char} (front : List Char)
    (other : text.head? ≠ some first) : stripFront? (first :: front) text = none := by
  refine if_neg fun begins => other ?_
  obtain ⟨rest, rfl⟩ := List.isPrefixOf_iff_prefix.mp begins
  rfl

/-- Brackets around a host are left out. -/
theorem stripBrackets_bracketed (host : List Char) :
    stripBrackets ('[' :: host ++ [']']) = host := by
  simp [stripBrackets, stripFront?, stripEnd?]

/-- A host that begins otherwise stays as it is. -/
theorem stripBrackets_of_head? (other : host.head? ≠ some '[') : stripBrackets host = host := by
  rw [stripBrackets, stripFront?_of_head? [] other]
  rfl

/-- A scheme is left out. -/
theorem normalize_scheme (text : String) : normalize (scheme ++ text) = text := by
  simp [normalize, stripFront?]

/-- A text that begins otherwise has no scheme. -/
theorem normalize_of_head? {text : String} (other : text.toList.head? ≠ some 't') :
    normalize text = text := by
  have bare : stripFront? scheme.toList text.toList = none :=
    stripFront?_of_head? "cp://".toList other
  rw [normalize, bare]

/-! ## Hosts and ports -/

/-- Without a colon there are no such parts. -/
theorem splitHostPort?_of_notMem {endpoint : String} (colonless : ':' ∉ endpoint.toList) :
    splitHostPort? endpoint = none := by
  rw [splitHostPort?, splitLastColon?_of_notMem colonless]
  rfl

/-- An endpoint is split exactly into a host, which may stand in brackets, and a numeral of 16
bits behind its last colon. -/
theorem splitHostPort?_eq_some_iff {endpoint : String} {bare : List Char} {port : UInt16} :
    splitHostPort? endpoint = some (bare, port) ↔
      ∃ host last, endpoint.toList = host ++ ':' :: last ∧ ':' ∉ last ∧
        stripBrackets host = bare ∧ bare ≠ [] ∧ Numeral.parse? 16 last = some port.toNat := by
  constructor
  case mp =>
    intro split
    by_cases colon : ':' ∈ endpoint.toList
    case pos =>
      obtain ⟨host, last, written, colonless⟩ := exists_last_colon colon
      rw [splitHostPort?, written, splitLastColon?_append host colonless] at split
      simp only [Option.bind_eq_bind, Option.bind_some, Option.bind_eq_some_iff,
        List.isEmpty_iff, Option.ite_none_left_eq_some, Option.some.injEq, Prod.mk.injEq] at split
      obtain ⟨number, parsed, nonempty, rfl, rfl⟩ := split
      have fits : number < 2 ^ 16 := (Numeral.parse?_eq_some_iff.mp parsed).2.2.2
      exact ⟨host, last, written, colonless, rfl, nonempty, by
        rwa [UInt16.toNat_ofNat_of_lt' fits]⟩
    case neg =>
      rw [splitHostPort?_of_notMem colon] at split
      exact nomatch split
  case mpr =>
    rintro ⟨host, last, written, colonless, rfl, nonempty, parsed⟩
    rw [splitHostPort?, written, splitLastColon?_append host colonless]
    simp [parsed, nonempty]

end PhotonFerry.Endpoint
