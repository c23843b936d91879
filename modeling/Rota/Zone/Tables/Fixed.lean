import Rota.Zone.Coded

/-!
Zones at a fixed distance from UTC, and those named for a rule and not for a place.
The coding is explained beside `CodedZone`.
-/

namespace Rota.Zone.Tables

def fixed : List CodedZone := [
  ⟨"CET",
    "CET:3600 CEST:7200",
    ["-s0e080B7ves0Aa4yw0B7x6o0Aasw00B7x6o0Ab8qdc0B1cm000A7k800B9q000A9d1c0B9d1c0A9d1c0B8l9c0A",
     "ggp1c0B902o0A9q000B9d1c0A9d1c0B9d1c0A9q000B902o0A9d1c0B9d1c0A9d1c0B9d1c0A9d1c0B9d1c0A9d1",
     "c0B9q000A9d1c0B9d1c0A9d1c0B9d1c0A9d1c0B9d1c0A9d1c0B9d1c0A9d1c0B9d1c0A9d1c0B9q000A9d1c0B9",
     "d1c0A9d1c0B9d1c0A9d1c0B9d1c0A9d1c0B9d1c0A9d1c0B9d1c0A"],
    "1996 B 3.5.0/7200 A 10.5.0/10800"⟩,
  ⟨"CST6CDT",
    "CST:-21600 CDT:-18000 CWT:-18000 CPT:-18000",
    ["-r0esg0Bast80A7x9g0Bast80Abmtus0C1tz8c0D2dsw0Ab9gdg0B9cyk0A9d440B9cyk0A9d440B9cyk0A9d440",
     "B9cyk0A9d440B9px80A9d440B9cyk0A9d440B9cyk0A3lpg0Bf4d80A64g40Bclmk0A9d440B9px80A905g0B9px",
     "80A9d440B9cyk0A9d440B9cyk0A9d440B9cyk0A9d440B9cyk0A9d440B9px80A905g0B9px80A9d440B9cyk0A9",
     "d440B9cyk0A9d440B9cyk0A8a840Bafuk0A8a840Bast80A7x9g0Bast80A7x9g0Bast80A8a840Bafuk0A8a840",
     "Bafuk0A8a840Bast80A7x9g0Bast80A7x9g0Bast80A8a840Bafuk0A8a840Bafuk0A8a840Bafuk0A8a840Bast",
     "80A7x9g0Bast80A7x9g0Bast80A8a840Bafuk0A8a840Bafuk0A8a840Bast80A7x9g0Bast80A7x9g0Bast80A"],
    "2007 B 3.2.0/7200 A 11.1.0/7200"⟩,
  ⟨"EET",
    "EET:7200 EEST:10800",
    ["3s9ms0B902o0A9q000B9d1c0A9d1c0B9d1c0A9q000B902o0A9d1c0B9d1c0A9d1c0B9d1c0A9d1c0B9d1c0A9d1",
     "c0B9q000A9d1c0B9d1c0A9d1c0B9d1c0A9d1c0B9d1c0A9d1c0B9d1c0A9d1c0B9d1c0A9d1c0B9q000A9d1c0B9",
     "d1c0A9d1c0B9d1c0A9d1c0B9d1c0A9d1c0B9d1c0A9d1c0B9d1c0A"],
    "1996 B 3.5.0/10800 A 10.5.0/14400"⟩,
  ⟨"EST",
    "EST:-18000",
    [],
    ""⟩,
  ⟨"EST5EDT",
    "EST:-18000 EDT:-14400 EWT:-14400 EPT:-14400",
    ["-r0ev80Bast80A7x9g0Bast80Abmtus0C1tzb40D2dq40Ab9gdg0B9cyk0A9d440B9cyk0A9d440B9cyk0A9d440",
     "B9cyk0A9d440B9px80A9d440B9cyk0A9d440B9cyk0A3lpg0Bf4d80A64g40Bclmk0A9d440B9px80A905g0B9px",
     "80A9d440B9cyk0A9d440B9cyk0A9d440B9cyk0A9d440B9cyk0A9d440B9px80A905g0B9px80A9d440B9cyk0A9",
     "d440B9cyk0A9d440B9cyk0A8a840Bafuk0A8a840Bast80A7x9g0Bast80A7x9g0Bast80A8a840Bafuk0A8a840",
     "Bafuk0A8a840Bast80A7x9g0Bast80A7x9g0Bast80A8a840Bafuk0A8a840Bafuk0A8a840Bafuk0A8a840Bast",
     "80A7x9g0Bast80A7x9g0Bast80A8a840Bafuk0A8a840Bafuk0A8a840Bast80A7x9g0Bast80A7x9g0Bast80A"],
    "2007 B 3.2.0/7200 A 11.1.0/7200"⟩,
  ⟨"Etc/GMT",
    "GMT:0",
    [],
    ""⟩,
  ⟨"Etc/GMT+1",
    "-01:-3600",
    [],
    ""⟩,
  ⟨"Etc/GMT+10",
    "-10:-36000",
    [],
    ""⟩,
  ⟨"Etc/GMT+11",
    "-11:-39600",
    [],
    ""⟩,
  ⟨"Etc/GMT+12",
    "-12:-43200",
    [],
    ""⟩,
  ⟨"Etc/GMT+2",
    "-02:-7200",
    [],
    ""⟩,
  ⟨"Etc/GMT+3",
    "-03:-10800",
    [],
    ""⟩,
  ⟨"Etc/GMT+4",
    "-04:-14400",
    [],
    ""⟩,
  ⟨"Etc/GMT+5",
    "-05:-18000",
    [],
    ""⟩,
  ⟨"Etc/GMT+6",
    "-06:-21600",
    [],
    ""⟩,
  ⟨"Etc/GMT+7",
    "-07:-25200",
    [],
    ""⟩,
  ⟨"Etc/GMT+8",
    "-08:-28800",
    [],
    ""⟩,
  ⟨"Etc/GMT+9",
    "-09:-32400",
    [],
    ""⟩,
  ⟨"Etc/GMT-1",
    "+01:3600",
    [],
    ""⟩,
  ⟨"Etc/GMT-10",
    "+10:36000",
    [],
    ""⟩,
  ⟨"Etc/GMT-11",
    "+11:39600",
    [],
    ""⟩,
  ⟨"Etc/GMT-12",
    "+12:43200",
    [],
    ""⟩,
  ⟨"Etc/GMT-13",
    "+13:46800",
    [],
    ""⟩,
  ⟨"Etc/GMT-14",
    "+14:50400",
    [],
    ""⟩,
  ⟨"Etc/GMT-2",
    "+02:7200",
    [],
    ""⟩,
  ⟨"Etc/GMT-3",
    "+03:10800",
    [],
    ""⟩,
  ⟨"Etc/GMT-4",
    "+04:14400",
    [],
    ""⟩,
  ⟨"Etc/GMT-5",
    "+05:18000",
    [],
    ""⟩,
  ⟨"Etc/GMT-6",
    "+06:21600",
    [],
    ""⟩,
  ⟨"Etc/GMT-7",
    "+07:25200",
    [],
    ""⟩,
  ⟨"Etc/GMT-8",
    "+08:28800",
    [],
    ""⟩,
  ⟨"Etc/GMT-9",
    "+09:32400",
    [],
    ""⟩,
  ⟨"Etc/UTC",
    "UTC:0",
    [],
    ""⟩,
  ⟨"HST",
    "HST:-36000",
    [],
    ""⟩,
  ⟨"MET",
    "MET:3600 MEST:7200",
    ["-s0e080B7ves0Aa4yw0B7x6o0Aasw00B7x6o0Ab8qdc0B1cm000A7k800B9q000A9d1c0B9d1c0A9d1c0B8l9c0A",
     "ggp1c0B902o0A9q000B9d1c0A9d1c0B9d1c0A9q000B902o0A9d1c0B9d1c0A9d1c0B9d1c0A9d1c0B9d1c0A9d1",
     "c0B9q000A9d1c0B9d1c0A9d1c0B9d1c0A9d1c0B9d1c0A9d1c0B9d1c0A9d1c0B9d1c0A9d1c0B9q000A9d1c0B9",
     "d1c0A9d1c0B9d1c0A9d1c0B9d1c0A9d1c0B9d1c0A9d1c0B9d1c0A"],
    "1996 B 3.5.0/7200 A 10.5.0/10800"⟩,
  ⟨"MST",
    "MST:-25200",
    [],
    ""⟩,
  ⟨"MST7MDT",
    "MST:-25200 MDT:-21600 MWT:-21600 MPT:-21600",
    ["-r0epo0Bast80A7x9g0Bast80Abmtus0C1tz5k0D2dvo0Ab9gdg0B9cyk0A9d440B9cyk0A9d440B9cyk0A9d440",
     "B9cyk0A9d440B9px80A9d440B9cyk0A9d440B9cyk0A3lpg0Bf4d80A64g40Bclmk0A9d440B9px80A905g0B9px",
     "80A9d440B9cyk0A9d440B9cyk0A9d440B9cyk0A9d440B9cyk0A9d440B9px80A905g0B9px80A9d440B9cyk0A9",
     "d440B9cyk0A9d440B9cyk0A8a840Bafuk0A8a840Bast80A7x9g0Bast80A7x9g0Bast80A8a840Bafuk0A8a840",
     "Bafuk0A8a840Bast80A7x9g0Bast80A7x9g0Bast80A8a840Bafuk0A8a840Bafuk0A8a840Bafuk0A8a840Bast",
     "80A7x9g0Bast80A7x9g0Bast80A8a840Bafuk0A8a840Bafuk0A8a840Bast80A7x9g0Bast80A7x9g0Bast80A"],
    "2007 B 3.2.0/7200 A 11.1.0/7200"⟩,
  ⟨"PST8PDT",
    "PST:-28800 PDT:-25200 PWT:-25200 PPT:-25200",
    ["-r0emw0Bast80A7x9g0Bast80Abmtus0C1tz2s0D2dyg0Ab9gdg0B9cyk0A9d440B9cyk0A9d440B9cyk0A9d440",
     "B9cyk0A9d440B9px80A9d440B9cyk0A9d440B9cyk0A3lpg0Bf4d80A64g40Bclmk0A9d440B9px80A905g0B9px",
     "80A9d440B9cyk0A9d440B9cyk0A9d440B9cyk0A9d440B9cyk0A9d440B9px80A905g0B9px80A9d440B9cyk0A9",
     "d440B9cyk0A9d440B9cyk0A8a840Bafuk0A8a840Bast80A7x9g0Bast80A7x9g0Bast80A8a840Bafuk0A8a840",
     "Bafuk0A8a840Bast80A7x9g0Bast80A7x9g0Bast80A8a840Bafuk0A8a840Bafuk0A8a840Bafuk0A8a840Bast",
     "80A7x9g0Bast80A7x9g0Bast80A8a840Bafuk0A8a840Bafuk0A8a840Bast80A7x9g0Bast80A7x9g0Bast80A"],
    "2007 B 3.2.0/7200 A 11.1.0/7200"⟩,
  ⟨"WET",
    "WET:0 WEST:3600",
    ["3s9ms0B902o0A9q000B9d1c0A9d1c0B9d1c0A9q000B902o0A9d1c0B9d1c0A9d1c0B9d1c0A9d1c0B9d1c0A9d1",
     "c0B9q000A9d1c0B9d1c0A9d1c0B9d1c0A9d1c0B9d1c0A9d1c0B9d1c0A9d1c0B9d1c0A9d1c0B9q000A9d1c0B9",
     "d1c0A9d1c0B9d1c0A9d1c0B9d1c0A9d1c0B9d1c0A9d1c0B9d1c0A"],
    "1996 B 3.5.0/3600 A 10.5.0/7200"⟩]

end Rota.Zone.Tables
