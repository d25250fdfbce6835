import CardTelemetry.Metric.Basic

/-!
# The metrics of the card collector

Twelve metrics: one for each card, three for each connector, and for each further record
one that carries its texts as labels and seven gauges.
-/

namespace CardTelemetry.Schema

def cardEnable : Metric :=
  .ofGroup "drm_card" "enable" "Indicates on whether the card is enabled (1) or disabled (0)"
    ["card"]

def cardInfo : Metric :=
  .ofGroup "drm_card" "card_info" "Card information"
    ["card", "driver", "memory_vendor", "power_performance_level", "unique_id", "vendor"]

def connectorDpms : Metric :=
  .ofGroup "drm_card_port" "dpms"
    "Display Power Management Signaling state of port. Off = 0, On = 1" ["card", "port"]

def connectorEnabled : Metric :=
  .ofGroup "drm_card_port" "enabled"
    "Indicates on whether the port is enabled or disabled. enabled = 1, disabled = 0"
    ["card", "port"]

def connectorStatus : Metric :=
  .ofGroup "drm_card_port" "status"
    "Indicates on whether the port is connected to a devices or not. connected = 1, disconnected = 0"
    ["card", "port"]

def busyPercent : Metric :=
  .ofGroup "drm" "gpu_busy_percent" "How busy the GPU is as a percentage." ["card"]

def gttSize : Metric :=
  .ofGroup "drm" "memory_gtt_size_bytes"
    "The size of the graphics translation table (GTT) block in bytes." ["card"]

def gttUsed : Metric :=
  .ofGroup "drm" "memory_gtt_used_bytes"
    "The used amount of the graphics translation table (GTT) block in bytes." ["card"]

def visibleVramSize : Metric :=
  .ofGroup "drm" "memory_vis_vram_size_bytes" "The size of visible VRAM in bytes." ["card"]

def visibleVramUsed : Metric :=
  .ofGroup "drm" "memory_vis_vram_used_bytes" "The used amount of visible VRAM in bytes."
    ["card"]

def vramSize : Metric :=
  .ofGroup "drm" "memory_vram_size_bytes" "The size of VRAM in bytes." ["card"]

def vramUsed : Metric :=
  .ofGroup "drm" "memory_vram_used_bytes" "The used amount of VRAM in bytes." ["card"]

/-- All metrics, those of cards and connectors first. -/
def all : List Metric :=
  [cardEnable, cardInfo, connectorDpms, connectorEnabled, connectorStatus, busyPercent, gttSize,
    gttUsed, visibleVramSize, visibleVramUsed, vramSize, vramUsed]

end CardTelemetry.Schema
