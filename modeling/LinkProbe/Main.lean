import LinkProbe.Live

/-!
# The command line
-/

/-- Runs the program with its arguments. -/
def main (arguments : List String) : IO UInt32 := LinkProbe.Live.run arguments
