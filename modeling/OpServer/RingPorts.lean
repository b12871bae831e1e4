import OpServer.DecimalPrinting
import OpServer.RingSlave

/-!
# The port text of the C slave

`getPort` of `Lab3slave.c` prints a port number and copies five bytes of the text,
which `main` then uses as a string.  Every port of a slave has five digits, so the
copy has no NUL.
-/

namespace OpServer

open Buffer Decimal

/-- `sprintf(target, "%d", number)`.  It is undefined where the text and its NUL do
not fit. -/
def sprintfInt {size : Nat} (target : Vector Byte size) (number : Int) :
    Option (Vector Byte size) :=
  if (printed number).length < size then some (overwrite target (printed number ++ [0]))
  else none

/-- `getPort`, with what its `temp` and the caller's `port` hold at first. -/
def getPort (temp : Vector Byte 6) (port : Vector Byte 5) (portNum : Int) :
    Option (Vector Byte 5) :=
  (sprintfInt temp portNum).bind fun temp => copyLoop temp 5 0 port

section GetPort

variable {temp : Vector Byte 6} {port result : Vector Byte 5} {portNum : Int}

theorem getPort_eq (temp : Vector Byte 6) (port : Vector Byte 5) (portNum : Int) :
    getPort temp port portNum =
      if (printed portNum).length < 6 then
        some (copied (overwrite temp (printed portNum ++ [0])) 5 port)
      else none := by
  unfold getPort sprintfInt
  split
  · exact copyLoop_zero_eq_copied _ _ _ (by decide) (by decide)
  · rfl

/-- `sprintf` overflows `temp` exactly for numbers of more than five characters. -/
theorem getPort_isSome_iff :
    (getPort temp port portNum).isSome ↔ -9999 ≤ portNum ∧ portNum ≤ 99999 := by
  have size := @length_printed_le_iff portNum 4 (by decide)
  rw [getPort_eq]
  split
  · rename_i fits
    have bounds := size.mp (by omega)
    exact iff_of_true rfl (by omega)
  · rename_i overflows
    refine iff_of_false (by simp) ?_
    intro bounds
    exact overflows (Nat.lt_succ_of_le (size.mpr (by omega)))

theorem getElem_getPort (returned : getPort temp port portNum = some result) {index : Nat}
    (inside : index < 5) :
    result[index] = (printed portNum ++ [0]).getD index temp[index] := by
  rw [getPort_eq] at returned
  split at returned
  · cases returned
    rw [getElem_copied_of_lt _ _ _ _ inside inside (by omega), getElem_overwrite]
  · cases returned

theorem take_getPort (returned : getPort temp port portNum = some result) :
    result.toList.take ((printed portNum).length + 1) = (printed portNum ++ [0]).take 5 := by
  have length : (printed portNum).length < 6 := by
    rw [getPort_eq] at returned
    split at returned
    · assumption
    · cases returned
  apply List.ext_getElem
  · simp only [List.length_take, Vector.length_toList, List.length_append, List.length_singleton]
    omega
  · intro index inResult inText
    rw [List.length_take, Vector.length_toList] at inResult
    rw [List.length_take, List.length_append, List.length_singleton] at inText
    have same := getElem_getPort returned (show index < 5 by omega)
    rw [List.getElem_take, List.getElem_take, Vector.getElem_toList, same]
    exact List.getD_eq_getElem _ _ (by rw [List.length_append, List.length_singleton]; omega)

theorem toList_getPort_of_length (returned : getPort temp port portNum = some result)
    (full : (printed portNum).length = 5) : result.toList = printed portNum := by
  have prefixes := take_getPort returned
  rw [List.take_of_length_le (by rw [Vector.length_toList]; omega),
    List.take_append_of_le_length (by omega), List.take_of_length_le (by omega)] at prefixes
  exact prefixes

theorem exists_toList_getPort (returned : getPort temp port portNum = some result)
    (short : (printed portNum).length < 5) :
    ∃ rest, result.toList = printed portNum ++ 0 :: rest := by
  have prefixes := take_getPort returned
  have whole : (printed portNum ++ [0]).take 5 = printed portNum ++ [0] := by
    apply List.take_of_length_le
    rw [List.length_append, List.length_singleton]
    omega
  refine ⟨result.toList.drop ((printed portNum).length + 1), ?_⟩
  rw [List.append_cons, ← whole, ← prefixes, List.take_append_drop]

end GetPort

/-- Whatever stands before the first NUL of the port is the number.  But a NUL is
there only for numbers of at most four characters. -/
theorem getPort_text {temp : Vector Byte 6} {port result : Vector Byte 5} {portNum : Int}
    (returned : getPort temp port portNum = some result) :
    Denotes (result.toList.takeWhile (· ≠ 0)) portNum ∧
      (0 ∈ result.toList ↔ -999 ≤ portNum ∧ portNum ≤ 9999) := by
  have size := @length_printed_le_iff portNum 3 (by decide)
  have noNul : ∀ character ∈ printed portNum, decide (character ≠ 0) = true := by
    intro character member
    refine decide_eq_true ?_
    rintro rfl
    exact zero_notMem_printed portNum member
  have length : (printed portNum).length < 6 := by
    rw [getPort_eq] at returned
    split at returned
    · assumption
    · cases returned
  rcases Nat.lt_or_ge (printed portNum).length 5 with short | full
  · obtain ⟨rest, text⟩ := exists_toList_getPort returned short
    have bounds := size.mp (by omega)
    rw [text]
    constructor
    · rw [List.takeWhile_append_of_pos noNul, List.takeWhile_cons_of_neg (by simp),
        List.append_nil]
      exact denotes_printed portNum
    · exact iff_of_true (List.mem_append_right _ List.mem_cons_self) (by omega)
  · rw [toList_getPort_of_length returned (by omega)]
    constructor
    · rw [List.takeWhile_eq_self_iff.mpr noNul]
      exact denotes_printed portNum
    · refine iff_of_false (zero_notMem_printed portNum) ?_
      intro bounds
      have short := size.mpr (by omega)
      omega

namespace RingInfo

/-- Whatever a slave received, its port has five digits. -/
theorem portNum_bounds (theRing : RingInfo) :
    10010 ≤ theRing.portNum ∧ theRing.portNum ≤ 11540 := by
  have mastGID := theRing.mastGID.isLt
  have rID := theRing.rID.isLt
  unfold portNum
  omega

end RingInfo

/-- `getPort` is defined for numbers of at most five characters, and what it leaves
in `port` is a string exactly for those of at most four.  For every response of a
master it is defined, and leaves the digits of the port without a NUL. -/
theorem getPort_defined_and_unterminated (temp : Vector Byte 6) (port : Vector Byte 5) :
    (∀ portNum, (getPort temp port portNum).isSome ↔ -9999 ≤ portNum ∧ portNum ≤ 99999) ∧
    (∀ portNum result, getPort temp port portNum = some result →
      Denotes (result.toList.takeWhile (· ≠ 0)) portNum ∧
        (0 ∈ result.toList ↔ -999 ≤ portNum ∧ portNum ≤ 9999)) ∧
    ∀ uninitialised response,
      ∃ result, getPort temp port (RingInfo.received uninitialised response).portNum =
          some result ∧
        0 ∉ result.toList ∧
        Denotes result.toList (RingInfo.received uninitialised response).portNum := by
  refine ⟨fun _ => getPort_isSome_iff, fun _ _ => getPort_text, ?_⟩
  intro uninitialised response
  have bounds := (RingInfo.received uninitialised response).portNum_bounds
  obtain ⟨result, returned⟩ := Option.isSome_iff_exists.mp
    ((@getPort_isSome_iff temp port (RingInfo.received uninitialised response).portNum).mpr
      (by omega))
  obtain ⟨denotes, terminated⟩ := getPort_text returned
  have unterminated : 0 ∉ result.toList := by
    rw [terminated]
    omega
  refine ⟨result, returned, unterminated, ?_⟩
  rwa [List.takeWhile_eq_self_iff.mpr] at denotes
  intro character member
  refine decide_eq_true ?_
  rintro rfl
  exact unterminated member

end OpServer
