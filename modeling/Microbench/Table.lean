import Microbench.Decimal.Fixed

/-!
Tables of left-aligned cells between bars. Widths count characters, and a cell longer than its
column keeps its full text.
-/

namespace Microbench.Table

/-- Width of a column that none was given for. -/
def defaultWidth : Nat := 10

/-- One cell, padded to `width`, with the bar behind it. -/
def cell (width : Nat) (text : String) : String := " " ++ padRight width text ++ " |"

def cells : List Nat → List String → List String
  | _, [] => []
  | [], text :: rest => cell defaultWidth text :: cells [] rest
  | width :: widths, text :: rest => cell width text :: cells widths rest

def row (widths : List Nat) (columns : List String) : String :=
  "|" ++ String.join (cells widths columns)

def separator (widths : List Nat) : String :=
  "+" ++ String.join (widths.map fun width =>
    String.ofList (List.replicate (width + 2) '-') ++ "+")

end Microbench.Table
