import ProseTree.Text.Basic

/-!
# TOML dates and times

Recognisers for dates, times and both together. A language definition has no use for them, so only
their form is checked: two digits for each part, four for the year, and all of them within the
calendar.
-/

namespace ProseTree.Toml

/-- The number that two digits spell. -/
def twoDigits? (tens units : Char) : Option Nat :=
  if tens.isDigit && units.isDigit then some ((tens.toNat - 48) * 10 + (units.toNat - 48)) else none

/-- The number of days of a month. -/
def daysOfMonth (year month : Nat) : Nat :=
  if month == 2 then
    if year % 4 == 0 && (year % 100 != 0 || year % 400 == 0) then 29 else 28
  else if [4, 6, 9, 11].contains month then 30
  else 31

/-- What follows a date at the start of a text. -/
def afterDate? : Text → Option Text
  | y₁ :: y₂ :: y₃ :: y₄ :: '-' :: m₁ :: m₂ :: '-' :: d₁ :: d₂ :: rest => do
    let century ← twoDigits? y₁ y₂
    let year ← twoDigits? y₃ y₄
    let month ← twoDigits? m₁ m₂
    let day ← twoDigits? d₁ d₂
    if 1 ≤ month && month ≤ 12 && 1 ≤ day && day ≤ daysOfMonth (century * 100 + year) month then
      some rest
    else none
  | _ => none

/-- What follows a time at the start of a text: hours and minutes, seconds if there are any, and a
fraction of a second if there is one. -/
def afterTime? : Text → Option Text
  | h₁ :: h₂ :: ':' :: m₁ :: m₂ :: rest => do
    let hour ← twoDigits? h₁ h₂
    let minute ← twoDigits? m₁ m₂
    if 23 < hour || 59 < minute then none
    else
      match rest with
      | ':' :: s₁ :: s₂ :: afterSecond => do
        let second ← twoDigits? s₁ s₂
        match afterSecond with
        | '.' :: fraction =>
          if 60 < second || (fraction.takeWhile Char.isDigit).isEmpty then none
          else some (fraction.dropWhile Char.isDigit)
        | _ => if 60 < second then none else some afterSecond
      | ':' :: _ => none
      | _ => some rest
  | _ => none

/-- A distance from universal time, or none. -/
def isOffset : Text → Bool
  | [] | ['Z'] | ['z'] => true
  | [sign, h₁, h₂, ':', m₁, m₂] =>
    (sign == '+' || sign == '-') &&
      match twoDigits? h₁ h₂, twoDigits? m₁ m₂ with
      | some hour, some minute => hour ≤ 23 && minute ≤ 59
      | _, _ => false
  | _ => false

/-- A date, a time, or both with a letter or a space between them. -/
def isMoment (text : Text) : Bool :=
  match afterDate? text with
  | some [] => true
  | some (separator :: time) =>
    (separator == 'T' || separator == 't' || separator == ' ') &&
      ((afterTime? time).map isOffset).getD false
  | none => afterTime? text == some []

end ProseTree.Toml
