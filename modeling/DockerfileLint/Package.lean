import DockerfileLint.Text.Basic

namespace DockerfileLint

/-- A manager installs with one of `installs`, and any of `cleanups` in the same command empties
its cache.  `advice` is a command that does both. -/
structure PackageManager where
  name : Text
  installs : List Text
  cleanups : List Text
  advice : Text

namespace PackageManager

def apt : PackageManager :=
  { name := "apt"
    installs := ["apt-get install", "apt install"]
    cleanups := ["apt-get clean", "rm -rf /var/lib/apt/lists/*"]
    advice := "RUN apt-get update && apt-get install -y <packages> \\\n    && rm -rf /var/lib/apt/lists/*" }

def yum : PackageManager :=
  { name := "yum"
    installs := ["yum install"]
    cleanups := ["yum clean all"]
    advice := "RUN yum install -y <packages> && yum clean all" }

def apk : PackageManager :=
  { name := "apk"
    installs := ["apk add"]
    cleanups := ["--no-cache", "rm -rf /var/cache/apk/*"]
    advice := "RUN apk add --no-cache <packages>" }

def known : List PackageManager := [apt, yum, apk]

/-- The command contains an installation and no cleanup of this manager. -/
def leavesCache (manager : PackageManager) (command : Text) : Bool :=
  manager.installs.any (Text.contains · command) && !manager.cleanups.any (Text.contains · command)

end PackageManager

end DockerfileLint
