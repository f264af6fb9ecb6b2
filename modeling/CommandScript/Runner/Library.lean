namespace CommandScript.Runner

def libraryLines : List String := [
  "//",
  "// Standard library for critical.",
  "//",
  "// Loaded ahead of every script run by the critical binary, unless it is",
  "// started with -n.  Everything here is written in the language itself.",
  "//",
  "",
  "// min returns the smaller of two numbers.",
  "proc min \x7ba b\x7d \x7b",
  "    if \x7b expr $a < $b \x7d \x7b return $a \x7d else \x7b return $b \x7d",
  "\x7d",
  "",
  "// max returns the larger of two numbers.",
  "proc max \x7ba b\x7d \x7b",
  "    if \x7b expr $a > $b \x7d \x7b return $a \x7d else \x7b return $b \x7d",
  "\x7d",
  "",
  "// abs returns the magnitude of a number.",
  "proc abs \x7bx\x7d \x7b",
  "    if \x7b expr $x < 0 \x7d \x7b expr 0 - $x \x7d else \x7b return $x \x7d",
  "\x7d",
  "",
  "// square multiplies a number by itself.",
  "proc square \x7bx\x7d \x7b",
  "    expr $x * $x",
  "\x7d",
  "",
  "// assert_equal stops the script with exit status 1 when the two values",
  "// differ as strings.",
  "proc assert_equal \x7bgot expected\x7d \x7b",
  "    if \x7b expr \"$got\" ne \"$expected\" \x7d \x7b",
  "        puts \"assertion failed: got '$got', expected '$expected'\"",
  "        exit 1",
  "    \x7d",
  "    return 1",
  "\x7d",
  ""]

def standardLibrary : String :=
  String.intercalate "\n" libraryLines

end CommandScript.Runner
