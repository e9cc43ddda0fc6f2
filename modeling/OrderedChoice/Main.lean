import OrderedChoice.Calculator.Table

/-!
# The calculator at work

Running the program prints the table of example expressions.
-/

def main : IO Unit :=
  OrderedChoice.Calculator.table.forM IO.println
