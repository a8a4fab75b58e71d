import JobScript.Adapter.Basic
import JobScript.Toolchain.Basic

/-! # The adapter of Node.js

Versions come by way of nvm, packages by way of yarn where the project has a lock file for it and
node is new enough, else by way of npm.
-/

namespace JobScript.Node

open Shell Number

def log : String := "buildscript.adapters.languages.node"

def standardVersion : String := "0.10"

/-- The version of nvm that the file host serves. -/
def nvmVersion : String := "0.32.0"

/-- The oldest version of node for which there is yarn. -/
def yarnNodeVersion : String := "4"

def yarnCache : String := "$HOME/.yarn-cache"

def nvm : Toolchain where
  name := "nodejs"
  install := "nvm install \x7bversion\x7d"
  select := "nvm use \x7bversion\x7d"
  envVariable := "NODE_VERSION"
  standardVersion := standardVersion
  pinFile := some ".nvmrc"

def run (command : String) : Program := .directive (.run command)

def runQuietly (command : String) : Program :=
  .directive (.command command { Options.standard with echo := false, timing := false })

def runUntimed (command : String) : Program :=
  .directive (.command command { Options.standard with timing := false })

def runHidden (command : String) : Program :=
  .directive (.command command { Options.standard with echo := false })

def runInstall (command : String) : Program :=
  .directive (.command command { Options.standard with retry := true, fold := some "install" })

def say (colour message : String) : Program := .directive (.sayIn colour message)

def sequence (ps : List Program) : Program := ps.foldr (· ++ ·) .nil

/-- The parts of a version between its points. -/
def versionParts (config : Config) : List String :=
  ((config.version.getD "").toList.splitOn '.').map String.ofList

/-- The first part of the version as a number, where it is made of digits. A digit without a place in
a positional number makes it fail. -/
def major (config : Config) : Except NumeralError (Option Int) :=
  let head := (versionParts config).headD ""
  if Text.isDigits head then (readInt 10 head).map some else .ok none

/-- The package manager of the oldest versions cannot verify the certificate of the registry. -/
def hasStrictSsl (config : Config) : Bool := (versionParts config).take 2 ≠ ["0", "6"]

def exportVersion (config : Config) : Program :=
  Lifecycle.exportAll config ++ match config.givenVersion with
    | some version => .directive (.setQuietly nvm.envVariable version)
    | none => .nil

def nvmScript : String := "$HOME/.nvm/nvm.sh"

def updateNvm (config : Config) : Program :=
  match config.appHost.filter (· ≠ "") with
  | none => .log (Log.debug log "No app host configured; skipping nvm self-update")
  | some host =>
    .ifThen ("[ \"$(build_vers2int \"$(nvm --version)\")\" -lt \"$(build_vers2int " ++ nvmVersion ++
        ")\" ]") <|
      sequence
        [say "yellow" s!"Updating nvm to v{nvmVersion}",
         .directive (.raw "mkdir -p $HOME/.nvm"),
         .directive (.raw s!"curl -s -o {nvmScript} https://{host}/files/nvm.sh"),
         .directive (.raw s!". {nvmScript}")]

def dropNpmHome : Program :=
  .ifThen "[ -n \"$(command -v sw_vers)\" ] && [ -f \"$HOME/.npmrc\" ]"
    (run "npm config delete prefix")

def relaxSsl : Program :=
  say "red" "### Disabling strict SSL ###" ++ run "npm conf set strict-ssl false"

def proxyNpm (config : Config) : Program :=
  match (config.hosts.lookup "npm_cache").filter (· ≠ "") with
  | none => .nil
  | some proxy =>
    runUntimed "npm config set registry http://registry.npmjs.org/" ++
      runUntimed s!"npm config set proxy {proxy}"

def setup (config : Config) : Program :=
  sequence
    [prependPath "./node_modules/.bin",
     updateNvm config,
     nvm.installVersion config.version,
     dropNpmHome,
     runQuietly "npm config set spin false",
     runQuietly "npm config set progress false",
     .when (!hasStrictSsl config) relaxSsl,
     .when (config.caches "npm") (proxyNpm config),
     .when (config.caches "yarn")
       (.folded "cache.yarn" (.directive (.say s!"Caching {yarnCache}")))]

def compilerWarning : String :=
  "Starting with io.js 3 and Node.js 4, building native extensions requires " ++
    "C++11-compatible compiler, which seems unavailable on this VM. Please read " ++
    "https://docs.travis-ci.com/user/languages/javascript-with-nodejs" ++
    "#Node.js-v4-(or-io.js-v3)-compiler-requirements."

def probeFile : String := "/tmp/foo-$$.cpp"

def probeSource : String :=
  "printf '%s\\n' '#include <array>' " ++
    "'std::array<int, 1> arr = \x7b0\x7d; int main() \x7breturn 0;\x7d' > " ++ probeFile

def compileProbe (compiler : String) : String :=
  s!"{compiler} -std=c++11 -o /dev/null {probeFile} >/dev/null 2>&1"

def probeCompiler : Program :=
  sequence
    [runHidden probeSource,
     .ifThen
       ("! (" ++ compileProbe "$\x7bCXX:-c++\x7d" ++ " || " ++ compileProbe "g++" ++ ")")
       (say "yellow" compilerWarning),
     runHidden s!"rm -f {probeFile}"]

/-- From version 3 on, extensions need a newer compiler. -/
def announce (config : Config) : Program :=
  match major config with
  | .error e => .fail (.numeral e)
  | .ok major =>
    sequence
      [.when (major.any (3 ≤ ·)) probeCompiler,
       run "node --version",
       run "npm --version",
       run "nvm --version"]

def npmInstall (config : Config) : Program :=
  runInstall (Text.stripRight s!"npm install {config.npmArgs}")

def installYarn : Program :=
  sequence
    [.ifThen "[ -z \"$(command -v gpg)\" ]" (.directive (.set "YARN_GPG" "no")),
     say "green" "Installing yarn",
     run "curl -o- -L https://yarnpkg.com/install.sh | bash",
     say "green" "Setting up \\$PATH",
     .directive (.set "PATH" "$HOME/.yarn/bin:$PATH")]

def nodeIsOld : String :=
  "[ \"$(build_vers2int \"$(node --version | tr -d 'v')\")\" -lt \"$(build_vers2int " ++
    yarnNodeVersion ++ ")\" ]"

def oldNodeMessage : String :=
  "Node.js version $(node --version) does not meet requirement for yarn. Please use Node.js " ++
    yarnNodeVersion ++ " or later."

def yarnInstall (config : Config) : Program :=
  .ifElse nodeIsOld
    (say "red" oldNodeMessage ++ npmInstall config)
    (.ifThen "[ -z \"$(command -v yarn)\" ]" installYarn ++ runInstall "yarn")

def install (config : Config) : Program :=
  .ifElse "[ -f package.json ]"
    (.ifElse "[ -f yarn.lock ]" (yarnInstall config) (npmInstall config))
    (.directive (.say "No package.json found, skipping dependency installation"))

def script : Program :=
  .ifElse "[ -f package.json ]" (run "npm test") (run Lifecycle.genericScript)

def adapter : Adapter where
  name := "node_js"
  aliases := ["node", "nodejs", "javascript"]
  hooks :=
    [(.export, .ofProgram "export" exportVersion),
     (.setup, .ofProgram "setup" setup),
     (.announce, .ofProgram "announce" announce),
     (.install, .ofProgram "install" install),
     (.script, .ofProgram "script" fun _ => script)]
  standardVersion := some standardVersion
  slugExtras config := if config.caches "yarn" then ["yarn"] else []
  directories config := if config.caches "yarn" then [yarnCache] else []

end JobScript.Node
