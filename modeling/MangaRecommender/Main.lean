import MangaRecommender.Cache.Address
import MangaRecommender.Settings

/-!
# Checking the settings of a server

Reads the settings from the environment and prints the address and the limits that a server would
run with. A fault is printed instead, and the exit code tells of it.
-/

namespace MangaRecommender

/-- The variables of the environment that are settings, in the order of the settings. -/
def readEnvironment : IO (List Settings.Assignment) :=
  Settings.entries.filterMapM fun entry => do
    let name := entry.name.map Char.toUpper
    return (← IO.getEnv name).map fun value => (name, value)

/-- What is said about settings, or why no server can run with them. -/
def describe (assignments : List Settings.Assignment) : Except String String := do
  let settings ← (Settings.load assignments).mapError SettingsFault.message
  if (CacheAddress.ofText? settings.redisUrl).isNone then
    .error ("REDIS_URL is not the address of a cache server: " ++ settings.redisUrl)
  else
    .ok (settings.address ++ " seeds " ++ toString settings.maxSeeds ++ " candidates " ++
      toString settings.maxCandidates)

end MangaRecommender

def main : IO UInt32 := do
  match MangaRecommender.describe (← MangaRecommender.readEnvironment) with
  | .ok description =>
    IO.println description
    return 0
  | .error message =>
    IO.eprintln ("Error: " ++ message)
    return 1
