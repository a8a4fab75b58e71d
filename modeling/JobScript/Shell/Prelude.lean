import JobScript.Shell.Render

/-! # The prelude

Shell functions at the start of every script, which the lines of the directives call: they mark
folds and times for the log, stop the build on a failure and try a command again.
-/

namespace JobScript.Shell

def preludeLines : List String :=
  ["#!/bin/sh",
    "",
    statusVariable ++ "=0",
    "build_retry_attempts=" ++ toString retryAttempts,
    "",
    "build_fold() \x7b",
    "  printf 'fold:%s:%s\\r\\n' \"$1\" \"$2\"",
    "\x7d",
    "",
    "build_time_start() \x7b",
    "  build_timer_id=$1",
    "  build_start_time=$(date +%s)",
    "  printf 'time:begin:%s\\r\\n' \"$build_timer_id\"",
    "\x7d",
    "",
    "build_time_finish() \x7b",
    "  build_end_time=$(date +%s)",
    "  printf 'time:end:%s:start=%s,finish=%s,duration=%s\\r\\n' \\",
    "    \"$build_timer_id\" \"$build_start_time\" \"$build_end_time\" \\",
    "    $((build_end_time - build_start_time))",
    "\x7d",
    "",
    "build_assert() \x7b",
    "  if [ \"$build_result\" -ne 0 ]; then",
    "    printf '\\033[31;1mThe command %s exited with %s.\\033[0m\\n' \"$1\" \"$build_result\"",
    "    exit \"$build_result\"",
    "  fi",
    "\x7d",
    "",
    "build_retry() \x7b",
    "  build_attempt=1",
    "  while [ \"$build_attempt\" -le \"$build_retry_attempts\" ]; do",
    "    eval \"$1\"",
    "    build_result=$?",
    "    if [ \"$build_result\" -eq 0 ]; then",
    "      return 0",
    "    fi",
    "    if [ \"$build_attempt\" -lt \"$build_retry_attempts\" ]; then",
    "      printf '\\033[31;1mThe command %s failed. Retrying, %s of %s.\\033[0m\\n' \\",
    "        \"$1\" $((build_attempt + 1)) \"$build_retry_attempts\"",
    "      sleep \"$\x7bBUILD_RETRY_SLEEP:-1\x7d\"",
    "    fi",
    "    build_attempt=$((build_attempt + 1))",
    "  done",
    "  printf '\\033[31;1mThe command %s failed %s times.\\033[0m\\n' " ++
      "\"$1\" \"$build_retry_attempts\"",
    "  return \"$build_result\"",
    "\x7d",
    "",
    "build_vers2int() \x7b",
    "  printf '1%03d%03d%03d%03d' $(printf '%s' \"$1\" | tr '.' ' ')",
    "\x7d"]

def prelude : String := Text.unlines preludeLines

end JobScript.Shell
