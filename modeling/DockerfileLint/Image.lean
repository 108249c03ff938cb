import DockerfileLint.Text.Basic

/-! Image references such as `registry.local:5000/team/node:18@sha256:0a`: the name at their core,
whether they pin a version, and what to use instead of an image known to be large. -/

namespace DockerfileLint.Image

/-- The name without digest, registry, repository path and tag. -/
def bareName (reference : Text) : Text :=
  let undigested := reference.takeWhile (· ≠ '@')
  let lastSegment := (undigested.reverse.takeWhile (· ≠ '/')).reverse
  lastSegment.takeWhile (· ≠ ':')

/-- The tag floats if it is `latest`, or if no colon gives a tag, a port or a digest. -/
def isUnpinned (reference : Text) : Bool :=
  (":latest" : Text).isSuffixOf reference || decide (':' ∉ reference)

def withoutLatest (reference : Text) : Text :=
  ((":latest" : Text).isSuffixOf? reference).getD reference

/-- Images known to be large, each with a slimmer one. -/
def largeImages : List (Text × Text) :=
  [("node", "node:alpine"),
   ("python", "python:alpine"),
   ("ruby", "ruby:alpine"),
   ("openjdk", "eclipse-temurin:21-jre-alpine"),
   ("php", "php:alpine"),
   ("nginx", "nginx:alpine"),
   ("ubuntu", "alpine"),
   ("debian", "debian:stable-slim"),
   ("centos", "rockylinux:9-minimal"),
   ("fedora", "fedora-minimal")]

/-- The entry for large images whose name begins the bare name. -/
def largeImage? (reference : Text) : Option (Text × Text) :=
  largeImages.find? fun entry => entry.1.isPrefixOf (bareName reference)

/-- Multistage builds by the name that begins the bare name of the base image. -/
def multistageBuilds : List (Text × Text) :=
  [("node", "Use multistage build: FROM node:slim AS build + FROM node:alpine"),
   ("python", "Use multistage build: FROM python:slim AS build + FROM python:alpine"),
   ("openjdk", "Use multistage build: FROM openjdk:slim AS build + FROM eclipse-temurin:slim"),
   ("golang", "Use multistage build: FROM golang:alpine AS build + FROM alpine")]

def multistageAdvice (reference : Text) : Text :=
  match multistageBuilds.find? fun entry => entry.1.isPrefixOf (bareName reference) with
  | some (_, advice) => advice
  | none => "Consider using a multistage build to reduce image size"

end DockerfileLint.Image
