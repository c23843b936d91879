import Rota.Zone.Coded

/-!
Zones of Europe.
The coding is explained beside `CodedZone`.
-/

namespace Rota.Zone.Tables

def europe : List CodedZone := [
  ⟨"Europe/Andorra",
    "LMT:364 WET:0 CET:3600 CEST:7200",
    ["-100edm4Bnvgqy4Ck3ctg0D9d1c0C9d1c0D9d1c0C9d1c0D9d1c0C9d1c0D9d1c0C9d1c0D9d1c0C9d1c0D9q000",
     "C9d1c0D9d1c0C9d1c0D9d1c0C9d1c0D9d1c0C9d1c0D9d1c0C9d1c0D9d1c0C"],
    "1996 D 3.5.0/7200 C 10.5.0/10800"⟩,
  ⟨"Europe/Astrakhan",
    "LMT:11532 +03:10800 +04:14400 +05:18000",
    ["-nu2zkcB37bv8cCqi27w0D9et80C9d440D9et80C9d440D9et80C9eys0D9d6w0C9d1c0D9d1c0C9d1c0D9d1c0C",
     "9d1c0D9d1c0C9d1c0D9d1c0Ciq5g0B9d1c0C9q000B9d1c0Cs3400B9d1c0C9d1c0B9d1c0C9d1c0B9d1c0C9d1c",
     "0B9q000Casw00B7x6o0Casw00B7x6o0Casw00B7x6o0Cb5uo0B7k800Cb5uo0B7k800Cb5uo0B7x6o0Casw00B7x",
     "6o0Casw00B7x6o0Cb5uo0B7k800Cb5uo0B7k800Cb5uo0B7k800Cb5uo0B7x6o0Casw00B7x6o0Casw00B7x6o0C",
     "b5uo0B7k800C1vbzw0Bqnc40C"],
    ""⟩,
  ⟨"Europe/Athens",
    "LMT:5692 AMT:5692 EET:7200 EEST:10800 CEST:7200 CET:3600",
    ["-12rxtq4Baw2tdoC8bjasgD2vmk0C4hiw40D16ik0Escog0F7lx40E9o2k0F9eys0C4atzw0D6djw0Cbplus0Dbq",
     "800C71uw0D9d1c0C902o0D91xc0C9o5c0D905g0C9qgo0D9akg0C9iik0D99980C9dcg0D9d1c0C9d1c0D9d1c0C",
     "9d1c0D9d1c0C9d1c0D9q000C9d1c0D9d1c0C9d1c0D9d1c0C9d1c0D9d1c0C9d1c0D9d1c0C9d1c0D9d1c0C9d1c",
     "0D9q000C9d1c0D9d1c0C9d1c0D9d1c0C9d1c0D9d1c0C9d1c0D9d1c0C9d1c0D9d1c0C"],
    "1996 D 3.5.0/10800 C 10.5.0/14400"⟩,
  ⟨"Europe/Belgrade",
    "LMT:4920 CET:3600 CEST:7200",
    ["-18vsmgoBtwhnkoCswz00B7k800C9q000B9d1c0C9d1c0Bb7pc0C6qik0Bjl1k40C9d1c0B9d1c0C9q000B9d1c0",
     "C9d1c0B9d1c0C9d1c0B9d1c0C9d1c0B9d1c0C9d1c0B9d1c0C9d1c0B9d1c0C9q000B9d1c0C9d1c0B9d1c0C9d1",
     "c0B9d1c0C9d1c0B9d1c0C9d1c0B9d1c0C9d1c0B"],
    "1996 C 3.5.0/7200 B 10.5.0/10800"⟩,
  ⟨"Europe/Berlin",
    "LMT:3208 CET:3600 CEST:7200 CEMT:10800",
    ["-1421154Bc1n0x4C7ves0Ba4yw0C7x6o0Basw00C7x6o0Bb8qdc0C1cm000B7k800C9q000B9d1c0C9d1c0B9d1c",
     "0C2o7w0D6bs00C2txg0B7k800C91xc0B9b9g0C1sqk0D2inw0C51k40Ba2yo0C8n400B9q000C902o0Bfx91c0C9",
     "02o0B9d1c0C9d1c0B9d1c0C9d1c0B9d1c0C9d1c0B9d1c0C9q000B9d1c0C9d1c0B9d1c0C9d1c0B9d1c0C9d1c0",
     "B9d1c0C9d1c0B9d1c0C9d1c0B9d1c0C9q000B9d1c0C9d1c0B9d1c0C9d1c0B9d1c0C9d1c0B9d1c0C9d1c0B9d1",
     "c0C9d1c0B"],
    "1996 C 3.5.0/7200 B 10.5.0/10800"⟩,
  ⟨"Europe/Brussels",
    "LMT:1050 BMT:1050 WET:0 CET:3600 CEST:7200 WEST:3600",
    ["-1ayy3h6B6forh6Cbr3hc0Drrx80E7vc00Da4yw0E7x6o0Dasw00E7x6o0D2wec0C5opg0Fb5uo0C6uao0Fcyo00",
     "C7ayo0Fbko00C7rmo0Fa2yo0Ca2yo0F8n400C902o0F9q000C9d1c0F9d1c0Ca2yo0F8n400C9q000F902o0Ca2y",
     "o0F90b00Ca2yo0F8n400C9q000F902o0Ca2yo0F8n400C9d1c0F9d1c0C902o0Fa2yo0C9d1c0F9d1c0C902o0F9",
     "q000Ca2yo0F8n400C9d1c0F9d1c0C902o0F9q000Ca2yo0Fb5uo0C51hc0F4dbw0E1a39c0D7k800E9q000D9d1c",
     "0E8l9c0Da4tc0E8l9c0Dclpc0E79400Dfwu800E902o0D9q000E9d1c0D9d1c0E9d1c0D9q000E902o0D9d1c0E9",
     "d1c0D9d1c0E9d1c0D9d1c0E9d1c0D9d1c0E9q000D9d1c0E9d1c0D9d1c0E9d1c0D9d1c0E9d1c0D9d1c0E9d1c0",
     "D9d1c0E9d1c0D9d1c0E9q000D9d1c0E9d1c0D9d1c0E9d1c0D9d1c0E9d1c0D9d1c0E9d1c0D9d1c0E9d1c0D"],
    "1996 E 3.5.0/7200 D 10.5.0/10800"⟩,
  ⟨"Europe/Bucharest",
    "LMT:6264 BMT:6264 EET:7200 EEST:10800",
    ["-14u7wu0Bkrxxc0Cfj8m0D6w5c0C9d1c0D9d1c0C9q000D9d1c0C9d1c0D9d1c0C9d1c0D9d1c0C9d1c0D9d1c0C",
     "9d1c0D9d1c0C9d1c0D9d1c0Ckp0dc0D6h980C9q000D905g0C9d6w0D9d1c0C9d1c0D9d1c0C9d1c0D9d1c0C9d1",
     "c0D9q000C9d1c0D9d1c0C9d1c0D9d1c0C9d1c0D9d1c0C9d1c0D9d1c0C9d1c0D9d1c0C9d1c0D9q000C9cvs0D9",
     "d1c0C9d1c0D9d1c0C9d1c0D9d1c0C9d1c0D9cyk0C9d440D9cyk0C9q2s0Dast80C"],
    "1997 D 3.5.0/10800 C 10.5.0/14400"⟩,
  ⟨"Europe/Budapest",
    "LMT:4580 CET:3600 CEST:7200",
    ["-15bee78Bdb0dz8C7ves0Ba4yw0C7x6o0Basw00C7x6o0Bauqo0C7vc00Bafxc0C8n400Baq1x00Cthcc0B7k800",
     "C9q000B9d1c0C9d1c0Bawd00C9eys0B7pxk0C9rrw0B9b9g0C9d1c0B9d1c0C9d1c0B9q000C902o0B2f4vs0C6u",
     "7w0Bbw0c0C6uao0Bclpc0C64dc0Bclpc0C64dc0Bbr3bs0C902o0B9d1c0C9d1c0B9d1c0C9d1c0B9d1c0C9d1c0",
     "B9d6w0C9q000B9d1c0C9d1c0B9d1c0C9d1c0B9d1c0C9d1c0B9d1c0C9d1c0B9d1c0C9d1c0B9d1c0C9q000B9d1",
     "c0C9d1c0B9d1c0C9d1c0B9d1c0C9d1c0B9d1c0C9d1c0B9d1c0C9d1c0B"],
    "1996 C 3.5.0/7200 B 10.5.0/10800"⟩,
  ⟨"Europe/Chisinau",
    "LMT:6920 CMT:6900 BMT:6264 EET:7200 EEST:10800 CEST:7200 CET:3600 MSK:10800 MSD:14400",
    ["-1ayy808Bjw96okC70f1toDfj8m0E6w5c0D9d1c0E9d1c0D9q000E9d1c0D9d1c0E9d1c0D9d1c0E9d1c0D9d1c0",
     "E9d1c0D9d1c0E9d1c0D9d1c0E9d1c0Dgeqo0Eha580Foc8g0G7k800F9q000G9d1c0F7cl00Hj3pbw0I9et80H9d",
     "440I9et80H9d440I9et80H9eys0I9d6w0H9d1c0I9d1c0H9d1c0I9d1c0H9d1c0I9d1c0H9d1c0I9d1c0H9d1c0I",
     "9d1c0H9d1c0I25p80E7kdk0D9d1c0E9d1c0D9cvs0E9cyk0D9d440E9cyk0D9d440E9cyk0D9d440E9cyk0D9q2s",
     "0East80D"],
    "1997 E 3.5.0/7200 D 10.5.0/10800"⟩,
  ⟨"Europe/Dublin",
    "LMT:-1521 DMT:-1521 IST:2079 BST:3600 GMT:0 IST:3600",
    ["-1anxqtrBiol480C6u7w0D1lrE9q000D8c000E9o5c0D9ruo0E9b6o0D9ew00E9b6o0Dauqo0E88ao0D9ew00E8y",
     "800Fa2yo0Ea2yo0F7k800Easw00F8a5c0Easw00F8n400Ea2yo0F8n400E9q000F902o0Eafxc0F8n400Ea2yo0F",
     "8n400E9q000F902o0Ea2yo0F8n400Ea2yo0F8n400E9q000F9d1c0Ea2yo0F8n400E9q000F902o0Ea2yo0F8n40",
     "0Ea2yo0F8n400E9q000F902o0Ea2yo0Fb5uo0E51hc0F3g8580E8a840Fbvp80E8n6s0Fa2yo0E7x6o0Fasw00E8",
     "n400F9q000E902o0F9q000E9d1c0F9q000E902o0F8n400E9q000F902o0Ea2yo0F8n400Eafxc0F8n400E9q000",
     "F902o0Ea2yo0F8n400Ea2yo0F8n400E9q000F902o0E902o0Fb5uo0E7k800Fb5uo0E7x6o0Fasw00E7k800Fb5u",
     "o0E7k800Fb5uo0E7k800Fb5uo0E7k800Fbitc0E5reo0F1xhuo0E779c0Fbitc0E779c0Fbitc0E779c0Fbitc0E",
     "779c0Fbitc0E7k800Fb5uo0E7k800Fb5uo0E7k800Fbitc0E779c0Fbitc0E779c0Fbitc0E7x3w0Fasw00E7x6o",
     "0Fasw00E7x6o0Fasw00E7x6o0Fb5uo0E7x6o0Fasw00E7x6o0Fasw00E7x6o0Fasw00E7x6o0Fasw00E7x6o0Fb5",
     "uo0E7k800Fb5uo0E7x6o0Fasw00E7x6o0Fasw00E7x6o0Fasw00E7x6o0Fasw00E7x6o0Fasw00E"],
    "1996 E 10.5.0/7200 F 3.5.0/3600"⟩,
  ⟨"Europe/Gibraltar",
    "LMT:-1284 GMT:0 BST:3600 BDST:7200 CET:3600 CEST:7200",
    ["-1anxr0cBiol38cC6uao0B9q000C8c000B9o5c0C9ruo0B9b6o0C9ew00B9b6o0Cauqo0B88ao0C9ew00B8y800C",
     "a2yo0Ba2yo0C7k800Basw00C8a5c0Basw00C8n400Ba2yo0C8n400B9q000C902o0Bafxc0C8n400Ba2yo0C8n40",
     "0B9q000C902o0Ba2yo0C8n400Ba2yo0C8n400B9q000C9d1c0Ba2yo0C8n400B9q000C902o0Ba2yo0C8n400Ba2",
     "yo0C8n400B9q000C902o0Ba2yo0Cb5uo0B51hc0Cmbmk0D51hc0Cc8qo0D6hc00Cc8qo0D6uao0Cbvs00D8n400C",
     "a4tc0D5clc0C4bms0B9q000C902o0B8a5c0C1frw0D64dc0C4bms0B6uao0Cbvs00B7x6o0Casw00B8n400C9q00",
     "0B902o0C9q000B9d1c0C9q000B902o0C8n400B9q000C902o0Ba2yo0C8n400Bafxc0C8n400B9q000Ed0tp80F9",
     "d1c0E9d1c0F9d1c0E9d1c0F9q000E9d1c0F9d1c0E9d1c0F9d1c0E9d1c0F9d1c0E9d1c0F9d1c0E9d1c0F9d1c0",
     "E9d1c0F9q000E9d1c0F9d1c0E9d1c0F9d1c0E9d1c0F9d1c0E9d1c0F9d1c0E9d1c0F9d1c0E"],
    "1996 F 3.5.0/7200 E 10.5.0/10800"⟩,
  ⟨"Europe/Helsinki",
    "LMT:5989 HMT:5989 EET:7200 EEST:10800",
    ["-1bss9ydBmebs00Cax3tqdD9gqo0Ck31s80D9d1c0C9d1c0D9d1c0C9d440D9d1c0C9d1c0D9q000C9d1c0D9d1c",
     "0C9d1c0D9d1c0C9d1c0D9d1c0C9d1c0D9d1c0C9d1c0D9d1c0C9d1c0D9q000C9d1c0D9d1c0C9d1c0D9d1c0C9d",
     "1c0D9d1c0C9d1c0D9d1c0C9d1c0D9d1c0C"],
    "1996 D 3.5.0/10800 C 10.5.0/14400"⟩,
  ⟨"Europe/Istanbul",
    "LMT:6952 IMT:7016 EET:7200 EEST:10800 +03:10800 +04:14400",
    ["-1ayy814Bg1oam8C2wvx6wD7v980C1tjc40Daunw0C88dg0D9et80C8yas0Da2vw0Ctzpg0D79180Cawo40D7v98",
     "0C7p4040D4zjw0C2vs40Df4d80C9vms0D1u5ek0Cc5440D69uk0Cacas0D8n180Ca31g0D8n180C9q2s0D8zzw0C",
     "a31g0D8zzw0Ca31g0D8n180C5md9g0Do9zw0Ca6qs0D75bw0C4iwyw0D7x6o0C7kas0Db5rw0C75hg0Dbkl80C77",
     "c40Dbiqk0C7x9g0Da2vw0C8n6s0D4iqc0E2nkw80F38l80Ekdes0C8qtc0D8a5c0C9ew00D9d1c0C9d1c0D9d1c0",
     "C9d1c0D9d1c0C9d1c0D9d1c0C9d1c0D9q000C9d1c0D9d1c0C9d1c0D9d1c0C9d1c0D9d1c0C902o0D9q000C9d1",
     "c0D9d1c0C9q000Dasw00C7x6o0Dasw00C7x6o0Dasw00C7x6o0Db5uo0C7k800Db5uo0C7k800Db5uo0C7x6o0Da",
     "sw00C7x6o0Dasw00C7x6o0Db5uo0C7k800Db5uo0C7k800Db5uo0C7kdk0Db5uo0C7x6o0Dasw00C7x6o0Dasw00",
     "C7x6o0Db5uo0C7lx40Db45k0C7k800Db5uo0C7x6o0Dasw00C7yvs0Dar6w0C7x6o0Dbil00C77ho0D8fe80E"],
    ""⟩,
  ⟨"Europe/Kaliningrad",
    "LMT:4920 CET:3600 CEST:7200 EET:7200 EEST:10800 MSK:10800 MSD:14400 +03:10800",
    ["-14212goBc1n28oC7ves0Ba4yw0C7x6o0Basw00C7x6o0Bb8qdc0C1cm000B7k800C9q000B9d1c0C9d1c0B9d1c",
     "0Cel00Dz6o0E9kd80D82tg0Fi9avw0G9et80F9d440G9et80F9d440G9et80F9eys0G9d6w0F9d1c0G9d1c0F9d1",
     "c0G9d1c0F9d1c0G9d1c0F9d1c0G9d1c0F9d1c0E9d440D9d1c0E9q000D9d1c0E9d1c0D9d1c0E9d1c0D9d1c0E9",
     "d1c0D9d1c0E9d1c0D9d1c0E9d1c0D9q000Easw00D7x6o0Easw00D7x6o0Easw00D7x6o0Eb5uo0D7k800Eb5uo0",
     "D7k800Eb5uo0D7x6o0Easw00D7x6o0Easw00D7x6o0Eb5uo0D7k800Eb5uo0D7k800Eb5uo0D7k800Eb5uo0D7x6",
     "o0Easw00D7x6o0Easw00D7x6o0Eb5uo0D7k800H1vbzw0D"],
    ""⟩,
  ⟨"Europe/Kirov",
    "LMT:11928 +03:10800 +04:14400 +05:18000 MSD:14400 MSK:10800 MSK:14400",
    ["-qcxd7cB5q68vcCqi27w0D9et80C9d440D9et80C9d440D9et80C9eys0D9d6w0C9d1c0D9d1c0C9d1c0D9d1c0C",
     "9d1c0D9d1c0C9d1c0D9d1c0C9d1c0E9d440F9d1c0E9q000F9d1c0Cipzw0E9d440F9d1c0E9d1c0F9d1c0E9d1c",
     "0F9d1c0E9d1c0F9q000Easw00F7x6o0Easw00F7x6o0Easw00F7x6o0Eb5uo0F7k800Eb5uo0F7k800Eb5uo0F7x",
     "6o0Easw00F7x6o0Easw00F7x6o0Eb5uo0F7k800Eb5uo0F7k800Eb5uo0F7k800Eb5uo0F7x6o0Easw00F7x6o0E",
     "asw00F7x6o0Eb5uo0F7k800G1vbzw0F"],
    ""⟩,
  ⟨"Europe/Kyiv",
    "LMT:7324 KMT:7324 EET:7200 MSK:10800 CEST:7200 CET:3600 MSD:14400 EEST:10800",
    ["-1ayy8bgBn4x6o0C37a03gD5vd6k0Ekzv40F7k800E9q000F1oyg0Djipzs0G9et80D9d440G9et80D9d440G9et",
     "80D9eys0G9d6w0D9d1c0G9d1c0D9d1c0G9d1c0D9d1c0G9d1c0D9d1c0G9d1c0D9d1c0G9d1c0D9d1c0G51ek0Hn",
     "eqw0C9d1c0H9d1c0C9d1c0H9d1c0C9d1c0H9d1c0C9d1c0H9d1c0C9q000Hasys0C"],
    "1997 H 3.5.0/10800 C 10.5.0/14400"⟩,
  ⟨"Europe/Lisbon",
    "LMT:-2205 WET:0 WEST:3600 WEMT:7200 CET:3600 CEST:7200",
    ["-u9rfmrB2bue6rC6zxg0B66580Cbq800B73k00Cbodc0B71pc0Cbq800B73k00Cbq800B71pc0Cbq800B1b2g00C",
     "9b6o0Bsaio0C8n400B9q000C902o0Ba2yo0C902o0Ba2yo0C8n400Bst1c0C8n400B9d1c0C9d1c0Bsg2o0C9d1c",
     "0B902o0C9q000Ba2yo0C8n400B9d1c0C9d1c0B902o0C9q000Ba2yo0Cb5uo0B51hc0Cbitc0B9d1c0C9ew00B88",
     "ao0C25p80D5reo0C3lpg0B779c0C1sqk0D6uao0C38qs0B6uao0C25p80D6hc00C38qs0B6uao0C25p80D6hc00C",
     "38qs0B8a5c0C9d1c0B9d9o0C9d1c0B9d1c0C9d1c0B9d1c0C9d1c0B9d1c0C9d1c0B9d1c0C9q000B9d1c0C9d1c",
     "0B9d1c0C9d1c0B9d1c0C9d1c0B9d1c0C9d1c0B9d1c0C9q000B9d1c0C9d1c0B9d1c0C9d1c0B9d1c0C9d1c0B9d",
     "1c0C9d1c0B9d1c0C9d1c0B9d1c0C9q000B9d1c0C9d1c0B9d1c0C9d1c0B9d1c0C9d1c0B9d1c0E5gyl40B9d1c0",
     "C9d1c0B9q000C9d1c0B9d1c0C9d440B9cyk0C9d440B9d1c0C9d1c0B9d1c0C9d1c0B9d440C9cyk0B9d1c0C9q0",
     "00B9d1c0C9d1c0B9d1c0C9d1c0B9d1c0C9d1c0B9d1c0C9d1c0B9d1c0C9d1c0B9d1c0C9q000B9d1c0C9d1c0B9",
     "d1c0C9cyk0F2s0E9d1c0F9d1c0E9d1c0F9d1c0E9d1c0F9d1c0E9px80Casys0B"],
    "1997 C 3.5.0/3600 B 10.5.0/7200"⟩,
  ⟨"Europe/London",
    "LMT:-75 GMT:0 BST:3600 BDST:7200",
    ["-1rprx9xBzqf9hxC6uao0B9q000C8c000B9o5c0C9ruo0B9b6o0C9ew00B9b6o0Cauqo0B88ao0C9ew00B8y800C",
     "a2yo0Ba2yo0C7k800Basw00C8a5c0Basw00C8n400Ba2yo0C8n400B9q000C902o0Bafxc0C8n400Ba2yo0C8n40",
     "0B9q000C902o0Ba2yo0C8n400Ba2yo0C8n400B9q000C9d1c0Ba2yo0C8n400B9q000C902o0Ba2yo0C8n400Ba2",
     "yo0C8n400B9q000C902o0Ba2yo0Cb5uo0B51hc0Cmbmk0D51hc0Cc8qo0D6hc00Cc8qo0D6uao0Cbvs00D8n400C",
     "a4tc0D5clc0C4bms0B9q000C902o0B8a5c0C1frw0D64dc0C4bms0B6uao0Cbvs00B7x6o0Casw00B8n400C9q00",
     "0B902o0C9q000B9d1c0C9q000B902o0C8n400B9q000C902o0Ba2yo0C8n400Bafxc0C8n400B9q000C902o0Ba2",
     "yo0C8n400Ba2yo0C8n400B9q000C902o0B902o0Cb5uo0B7k800Cb5uo0B7x6o0Casw00B7k800Cb5uo0B7k800C",
     "b5uo0B7k800Cb5uo0B7k800Cbitc0B5reo0C1xhrw0B77c40Cbitc0B779c0Cbitc0B779c0Cbitc0B779c0Cbit",
     "c0B7k800Cb5uo0B7k800Cb5uo0B7k800Cbitc0B779c0Cbitc0B779c0Cbitc0B7x3w0Casw00B7x6o0Casw00B7",
     "x6o0Casw00B7x6o0Cb5uo0B7x6o0Casw00B7x6o0Casw00B7x6o0Casw00B7x6o0Casw00B7x6o0Cb5uo0B7k800",
     "Cb5uo0B7x6o0Casw00B7x6o0Casw00B7x6o0Casw00B7x6o0Casw00B7x6o0Casw00B"],
    "1996 C 3.5.0/3600 B 10.5.0/7200"⟩,
  ⟨"Europe/Madrid",
    "LMT:-884 WET:0 WEST:3600 WEMT:7200 CET:3600 CEST:7200",
    ["-100ecngB90shvgC8yas0B9cyk0C9eys0B2d2vw0C8sqs0Bssyk0C8n6s0B9px80C905g0Ba2yo0C902o0Ba2vw0",
     "C8n6s0B40lh80C5k2s0B9cyk0C1frw0D7z1c0Cj1c80B8a2k0E13yt80F685g0Ebrzw0F8n6s0Ea2vw0F8n6s0Ea",
     "2vw0F8n6s0Ea2vw0F8n6s0E1clx80F7x9g0Ecswik0F905g0E9px80F905g0E8zzw0F9d440E9px80F905g0E9q5",
     "k0F9d1c0E9d1c0F9d1c0E9q000F902o0E9d1c0F9d1c0E9d1c0F9d1c0E9d1c0F9d1c0E9d1c0F9q000E9d1c0F9",
     "d1c0E9d1c0F9d1c0E9d1c0F9d1c0E9d1c0F9d1c0E9d1c0F9d1c0E9d1c0F9q000E9d1c0F9d1c0E9d1c0F9d1c0",
     "E9d1c0F9d1c0E9d1c0F9d1c0E9d1c0F9d1c0E"],
    "1996 F 3.5.0/7200 E 10.5.0/10800"⟩,
  ⟨"Europe/Malta",
    "LMT:3484 CET:3600 CEST:7200",
    ["-13qyw0sBbsbx8sC64ak0B9d440C9et80B88dg0Caunw0B7ig40Cb5rw0B8n6s0C9cyk0Baau2s0C18r9k0B7k80",
     "0C9q000B9b6o0C8n400Ba4tc0C8j940B9f1k0Cafxc0B89zs0Cafxc0B7kdk0Cb5uo0B979rs0C6h980Bcls40C6",
     "4dc0Bclpc0C64dc0Bcyo00C64dc0Bclpc0C64dc0Bc8qo0C6hc00Bclpc0C6hc00B9b6o0C9d1c0Bahs00C7m2o0",
     "Bb45k0C7x3w0Basys0C7x3w0Basys0C7x3w0Basys0C7x3w0Basys0C7x3w0Ba4w40C8y580B9q2s0C9d1c0B9d1",
     "c0C9d1c0B9d1c0C9d1c0B9d1c0C9q000B9d1c0C9d1c0B9d1c0C9d1c0B9d1c0C9d1c0B9d1c0C9d1c0B9d1c0C9",
     "d1c0B9d1c0C9q000B9d1c0C9d1c0B9d1c0C9d1c0B9d1c0C9d1c0B9d1c0C9d1c0B9d1c0C9d1c0B"],
    "1996 C 3.5.0/7200 B 10.5.0/10800"⟩,
  ⟨"Europe/Minsk",
    "LMT:6616 MMT:6600 EET:7200 MSK:10800 CEST:7200 CET:3600 MSD:14400 EEST:10800 +03:10800",
    ["-1ayy7rsBn4x6ogC379zjcD5r1mk0Epbf40F7k800E9q000F9d1c0E4oac0Dj6dmk0G9et80D9d440G9et80D9d4",
     "40G9et80D9eys0G9d6w0D9d1c0G9d1c0D9d1c0G9d1c0D9d1c0G9d1c0D9d1c0G9d1c0D9d1c0G9d1c0Dsg2o0H9",
     "d440C9d1c0H9d1c0C9d1c0H9d1c0C9d1c0H9d1c0C9d1c0H9d1c0C9q000Hasw00C7x6o0Hasw00C7x6o0Hasw00",
     "C7x6o0Hb5uo0C7k800Hb5uo0C7k800Hb5uo0C7x6o0Hasw00C7x6o0Hasw00C7x6o0Hb5uo0C7k800Hb5uo0C7k8",
     "00Hb5uo0C7k800Hb5uo0C7x6o0Hasw00C7x6o0Hasw00C7x6o0Hb5uo0C7k800I"],
    ""⟩,
  ⟨"Europe/Moscow",
    "LMT:9017 MMT:9017 MMT:9079 MST:12679 MDST:16279 MDST:18000 MSD:14400 MSK:10800 +05:18000 EET:7200 EEST:10800 MSK:14400",
    ["-1ayy9mhBj1sw00CipzuaD97hc0C7yyk0E5i840Dd9p80E1jk00Fck7G2cvk0Hs8o00G1qvw0I8fpc0G1jms0His",
     "040J412as0Hqi27w0G9et80H9d440G9et80H9d440G9et80H9eys0G9d6w0H9d1c0G9d1c0H9d1c0G9d1c0H9d1c",
     "0G9d1c0H9d1c0G9d1c0H9d1c0G9d1c0H9d1c0G9q000H9d1c0K9d440J5reo0H3ljw0G9d1c0H9d1c0G9d1c0H9d",
     "1c0G9d1c0H9d1c0G9d1c0H9q000Gasw00H7x6o0Gasw00H7x6o0Gasw00H7x6o0Gb5uo0H7k800Gb5uo0H7k800G",
     "b5uo0H7x6o0Gasw00H7x6o0Gasw00H7x6o0Gb5uo0H7k800Gb5uo0H7k800Gb5uo0H7k800Gb5uo0H7x6o0Gasw0",
     "0H7x6o0Gasw00H7x6o0Gb5uo0H7k800L1vbzw0H"],
    ""⟩,
  ⟨"Europe/Paris",
    "LMT:561 PMT:561 WET:0 WEST:3600 CEST:7200 CET:3600 WEMT:7200",
    ["-154gb3lBafgo00C2qx1nlD5luo0C8y800Da4tc0C7vc00Dauqo0C7idc0Db7pc0C6sg00Dcyo00C7ayo0Dbko00",
     "C7rmo0Da2yo0Cbvs00D6uao0C902o0D9q000C9d1c0D9d1c0Ca2yo0D8n400C9q000D902o0Ca2yo0D902o0Ca2y",
     "o0D8n400C9q000D902o0Ca2yo0D8n400C9d1c0D9d1c0C902o0Da2yo0C9d1c0D9d1c0C902o0D9q000Ca2yo0D8",
     "n400C9d1c0D9d1c0C902o0D9q000Ca2yo0Db5uo0C51po0D5p8w0E18rcc0F7k800E9q000F9d1c0E7efo0G29k4",
     "0D922w0G8l9c0Ffxlx80E9cyk0F9q5k0E902o0F9q000E9d1c0F9d1c0E9d1c0F9q000E902o0F9d1c0E9d1c0F9",
     "d1c0E9d1c0F9d1c0E9d1c0F9d1c0E9q000F9d1c0E9d1c0F9d1c0E9d1c0F9d1c0E9d1c0F9d1c0E9d1c0F9d1c0",
     "E9d1c0F9d1c0E9q000F9d1c0E9d1c0F9d1c0E9d1c0F9d1c0E9d1c0F9d1c0E9d1c0F9d1c0E9d1c0F"],
    "1996 E 3.5.0/7200 F 10.5.0/10800"⟩,
  ⟨"Europe/Prague",
    "LMT:3464 PMT:3464 CET:3600 CEST:7200 GMT:0",
    ["-1qmkw08Blsd1c0Ccttug8D7ves0Ca4yw0D7x6o0Casw00D7x6o0Cb8qdc0D1cm000C7k800D9q000C9d1c0D9d1",
     "c0C9d1c0D9d1c0Cb5uo0D7vc00C2vs40E4bk00C2vmk0D8n400Ca2yo0D8n400C9o5c0D91xc0Cfe6000D9d1c0C",
     "9q000D902o0C9d1c0D9d1c0C9d1c0D9d1c0C9d1c0D9d1c0C9d1c0D9q000C9d1c0D9d1c0C9d1c0D9d1c0C9d1c",
     "0D9d1c0C9d1c0D9d1c0C9d1c0D9d1c0C9d1c0D9q000C9d1c0D9d1c0C9d1c0D9d1c0C9d1c0D9d1c0C9d1c0D9d",
     "1c0C9d1c0D9d1c0C"],
    "1996 D 3.5.0/7200 C 10.5.0/10800"⟩,
  ⟨"Europe/Riga",
    "LMT:5794 RMT:5794 LST:9394 EET:7200 MSK:10800 CEST:7200 CET:3600 MSD:14400 EEST:10800",
    ["-1ayy74yBjzalk0C7x6o0Ba4tc0C2mg00B3myns0D7fhlkyEgz180Fp5v40G7k800F9q000G9d1c0F9d1c0Gk7s0",
     "Ej14ns0H9et80E9d440H9et80E9d440H9et80E9eys0H9d6w0E9d1c0H9d1c0E9d1c0H9d1c0E9d1c0H9d1c0E9d",
     "1c0H9d1c0E9d1c0I9d440D9d1c0I9q000D9d1c0I9d1c0D9d1c0I9d1c0D9d1c0I9d1c0D9d1c0I9d1c0D9d1c0I",
     "9d1c0D9q000I9d1c0D9d440Iasw00D7x6o0Iasw00D7x6o0Ib5uo0D"],
    "2001 I 3.5.0/10800 D 10.5.0/14400"⟩,
  ⟨"Europe/Rome",
    "LMT:2996 RMT:2996 CET:3600 CEST:7200",
    ["-1hs7rn8Be16yk0Cbsdub8D64ak0C9d440D9et80C88dg0Daunw0C7ig40Db5rw0C8n6s0D9cyk0Caau2s0D18r9",
     "k0C7k800D9q000C9d1c0D8l9c0Ca4tc0D8j940C9f1k0Dafxc0C89zs0Dafxc0C7kdk0Db5uo0C979rs0D6h980C",
     "cls40D64dc0Cclpc0D64dc0Ccyo00D64dc0Cclpc0D64dc0Cc8qo0D6hc00Cclpc0D6hc00Cclpc0D64dc0Cc8qo",
     "0D6hc00Cclpc0D64dc0Cclpc0D64dc0Cc8qo0D6hc00Cclpc0D6hc00Cc8qo0D6hc00C9q5k0D902o0C9d1c0D9d",
     "1c0C9d1c0D9d1c0C9d1c0D9d1c0C9d1c0D9q000C9d1c0D9d1c0C9d1c0D9d1c0C9d1c0D9d1c0C9d1c0D9d1c0C",
     "9d1c0D9d1c0C9d1c0D9q000C9d1c0D9d1c0C9d1c0D9d1c0C9d1c0D9d1c0C9d1c0D9d1c0C9d1c0D9d1c0C"],
    "1996 D 3.5.0/7200 C 10.5.0/10800"⟩,
  ⟨"Europe/Samara",
    "LMT:12020 +03:10800 +04:14400 +05:18000",
    ["-qcxd9wB5q68xwCqi27w0D9et80C9d440D9et80C9d440D9et80C9eys0D9d6w0C9d1c0D9d1c0C9d1c0D9d1c0C",
     "9d1c0D9d1c0C9d1c0D9d1c0Ciq5g0B9d1c0C9q000Bjt1g0C89zs0D9d1c0C9d1c0D9d1c0C9d1c0D9d1c0C9d1c",
     "0D9d1c0C9q000Dasw00C7x6o0Dasw00C7x6o0Dasw00C7x6o0Db5uo0C7k800Db5uo0C7k800Db5uo0C7x6o0Das",
     "w00C7x6o0Dasw00C7x6o0Db5uo0C7k800Db5uo0C7k800Db5uo0C7k800Db5uo0C7x6o0Dasw00C7x6o0Dasw00C",
     "j3440B7k800C"],
    ""⟩,
  ⟨"Europe/Saratov",
    "LMT:11058 +03:10800 +04:14400 +05:18000",
    ["-qcxcj6B5q6876Cqi27w0D9et80C9d440D9et80C9d440D9et80C9eys0D9d6w0C9d1c0D9d1c0C9d1c0D9d1c0C",
     "9d1c0D9d1c0Ciq5g0B9d1c0C9d1c0B9d1c0C9q000B9d1c0Cs3400B9d1c0C9d1c0B9d1c0C9d1c0B9d1c0C9d1c",
     "0B9q000Casw00B7x6o0Casw00B7x6o0Casw00B7x6o0Cb5uo0B7k800Cb5uo0B7k800Cb5uo0B7x6o0Casw00B7x",
     "6o0Casw00B7x6o0Cb5uo0B7k800Cb5uo0B7k800Cb5uo0B7k800Cb5uo0B7x6o0Casw00B7x6o0Casw00B7x6o0C",
     "b5uo0B7k800C1vbzw0B13m040C"],
    ""⟩,
  ⟨"Europe/Simferopol",
    "LMT:8184 SMT:8160 EET:7200 MSK:10800 CEST:7200 CET:3600 MSD:14400 EEST:10800 MSK:14400",
    ["-1ayy8zcBn4x6ooC37a0qoD5xiyk0Eiu340F7k800E9q000F9d1c0Eiac0Djajmk0G9et80D9d440G9et80D9d44",
     "0G9et80D9eys0G9d6w0D9d1c0G9d1c0D9d1c0G9d1c0D9d1c0G9d1c0D9d1c0G9d1c0D9d1c0G9d1c0Deeio0Cwr",
     "pg0H9d1c0C9d1c0H9d1c0C9d1c0H1sl00G7kdk0D9d1c0G9d1c0D9pug0Gat1k0D7x3w0C8c0Hasw00C7x6o0Has",
     "w00C7x6o0Hb5uo0C7k800Hb5uo0C7k800Hb5uo0C7x6o0Hasw00C7x6o0Hasw00C7x6o0Hb5uo0C7k800Hb5uo0C",
     "7k800Hb5uo0C7k800Hb5uo0C7x6o0Hasw00C7x6o0Hasw00C7x6o0Hb5uo0C7k800Hb5uo0C7k800Hb5uo0C7x6o",
     "0Hasw00C7x3w0Iasqg0D"],
    ""⟩,
  ⟨"Europe/Sofia",
    "LMT:5596 IMT:7016 EET:7200 CET:3600 CEST:7200 EEST:10800",
    ["-1ayy6zgB7s708kCp0d6uwD7k800E9q000D9d1c0E9d1c0D9d440Chqq240F9eys0C9o2k0F92040C9o2k0F9088",
     "0C9pug0F90b00C9d1c0F9d1c0C9d1c0F9q000C9d1c0F9d1c0C9d1c0F9d1c0C9d1c0F9d1c0C9d1c0F9d1c0C9d",
     "1c0F9d1c0C9d1c0F9q000C9cvs0F9cyk0C9d440F9cyk0C9d440F9cyk0C9d440F9cyk0C9d440F9cyk0C9q2s0F",
     "ast80C"],
    "1997 F 3.5.0/10800 C 10.5.0/14400"⟩,
  ⟨"Europe/Tallinn",
    "LMT:5940 TMT:5940 CET:3600 CEST:7200 EET:7200 MSK:10800 MSD:14400 EEST:10800",
    ["-1ayy790Bjvj9c0C3re10D7x6o0Cet6g0Bygov0Ea1zgd0Fktx80Dl94g0C7k800D9q000C9d1c0D8uac0Fj27mk",
     "0G9et80F9d440G9et80F9d440G9et80F9eys0G9d6w0F9d1c0G9d1c0F9d1c0G9d1c0F9d1c0G9d1c0F9d1c0G9d",
     "1c0F9d1c0H9d440E9d1c0H9q000E9d1c0H9d1c0E9d1c0H9d1c0E9d1c0H9d1c0E9d1c0H9d1c0E9d1c0H9d1c0E",
     "9q000Hasw00E7x6o0Hasw00E7x6o0Hasys0E7x6o0Hb5uo0E"],
    "2002 H 3.5.0/10800 E 10.5.0/14400"⟩,
  ⟨"Europe/Tirane",
    "LMT:4760 CET:3600 CEST:7200",
    ["-t85vo8Bdt2gw8C18pew0B7k800Cm800Bg7ot40C7rjw0Bautg0C7x3w0Bayis0C7x3w0Bb5xg0C7k580Bb42s0C",
     "7lzw0Bb42s0C7lzw0Bb42s0C7x3w0Bahus0C7x3w0Bb5xg0C7x3w0Ba4w40C8jbw0B9eys0C9d6w0B9d1c0C9d1c",
     "0B9d1c0C9d1c0B9d1c0C9d1c0B9d1c0C9d1c0B9d1c0C9d1c0B9d1c0C9q000B9d1c0C9d1c0B9d1c0C9d1c0B9d",
     "1c0C9d1c0B9d1c0C9d1c0B9d1c0C9d1c0B"],
    "1996 C 3.5.0/7200 B 10.5.0/10800"⟩,
  ⟨"Europe/Ulyanovsk",
    "LMT:11616 +03:10800 +04:14400 +05:18000 +02:7200",
    ["-qcxcyoB5q68moCqi27w0D9et80C9d440D9et80C9d440D9et80C9eys0D9d6w0C9d1c0D9d1c0C9d1c0D9d1c0C",
     "9d1c0D9d1c0C9d1c0D9d1c0Ciq5g0B9d1c0C9q000Biq5g0E5reo0B3ljw0C9d1c0B9d1c0C9d1c0B9d1c0C9d1c",
     "0B9d1c0C9d1c0B9q000Casw00B7x6o0Casw00B7x6o0Casw00B7x6o0Cb5uo0B7k800Cb5uo0B7k800Cb5uo0B7x",
     "6o0Casw00B7x6o0Casw00B7x6o0Cb5uo0B7k800Cb5uo0B7k800Cb5uo0B7k800Cb5uo0B7x6o0Casw00B7x6o0C",
     "asw00B7x6o0Cb5uo0B7k800C1vbzw0Bqnc40C"],
    ""⟩,
  ⟨"Europe/Vienna",
    "LMT:3921 CET:3600 CEST:7200",
    ["-14211oxBc1n1gxC7ves0Ba4yw0C7x6o0Basw00C7x6o0Bt6000C8a5c0Ba7a800C1cm000B7k800C9q000B9d1c",
     "0C9d1c0B9d1c0Cifw0Bivpg0C91xc0B9b6o0C9d1c0Ba2yo0C8n400Bgfyyg0C8zzw0B9d9o0C9d1c0B9d1c0C9d",
     "1c0B9d1c0C9d1c0B9d1c0C9q000B9d1c0C9d1c0B9d1c0C9d1c0B9d1c0C9d1c0B9d1c0C9d1c0B9d1c0C9d1c0B",
     "9d1c0C9q000B9d1c0C9d1c0B9d1c0C9d1c0B9d1c0C9d1c0B9d1c0C9d1c0B9d1c0C9d1c0B"],
    "1996 C 3.5.0/7200 B 10.5.0/10800"⟩,
  ⟨"Europe/Vilnius",
    "LMT:6076 WMT:5040 KMT:5736 CET:3600 EET:7200 MSK:10800 CEST:7200 MSD:14400 EEST:10800",
    ["-1ayy7csBjb5y4sC1g224oDe75ncE4kqk0Dacbs40Fgpp40Gpits0D7k800G9q000D9d1c0G65zo0Fj4vx80H9et",
     "80F9d440H9et80F9d440H9et80F9eys0H9d6w0F9d1c0H9d1c0F9d1c0H9d1c0F9d1c0H9d1c0F9d1c0H9d1c0F9",
     "d1c0I9d440E9d1c0I9q000E9d1c0I9d1c0E9d1c0I9d1c0E9d1c0I9d1c0E9d1c0I9d1c0E9d1c0I9d1c0E9q000",
     "Iasw00E7x6o0Iasw00E7x3w0D5k0Gasw00D7x6o0Gb5p40E"],
    "2003 I 3.5.0/10800 E 10.5.0/14400"⟩,
  ⟨"Europe/Volgograd",
    "LMT:10660 +03:10800 +04:14400 +05:18000 MSD:14400 MSK:10800 MSK:14400",
    ["-q3cw84B5glrw4Cqi27w0D9et80C9d440D9et80C9d440D9et80C9eys0D9d6w0C9d1c0D9d1c0C9d1c0D9d1c0C",
     "9d1c0D9d1c0C9d1c0E9d440F9d1c0E9d1c0F9d1c0E9q000F9d1c0Cipzw0E9d440F9d1c0E9d1c0F9d1c0E9d1c",
     "0F9d1c0E9d1c0F9q000Easw00F7x6o0Easw00F7x6o0Easw00F7x6o0Eb5uo0F7k800Eb5uo0F7k800Eb5uo0F7x",
     "6o0Easw00F7x6o0Easw00F7x6o0Eb5uo0F7k800Eb5uo0F7k800Eb5uo0F7k800Eb5uo0F7x6o0Easw00F7x6o0E",
     "asw00F7x6o0Eb5uo0F7k800G1vbzw0F239c40C14oqk0F"],
    ""⟩,
  ⟨"Europe/Warsaw",
    "LMT:5040 WMT:5040 CET:3600 CEST:7200 EET:7200 EEST:10800",
    ["-1ayy6k0Biko800Cdvyc0D7ves0Ca4yw0D7x6o0Casw00D7x6o0Eaunw0F7x6o0E1evbs0C9fcwc0D18cao0C7k8",
     "00D9q000C9d1c0D9gnw0Can980D9kd80C8fs40D922w0Car1c0D7x6o0Ca2yo0D8n400C9q000D902o0C4013w0D",
     "64dc0C9d1c0D9d1c0Cclpc0D6hc00C9d1c0D9d1c0Cc8qo0D6hc00Cc8qo0D6hc00Cc8qo0D6hc00Cclpc0D64dc",
     "0C6j4tc0D902o0C9q000D9d1c0C9d1c0D9d1c0C9q000D902o0C9d1c0D9d1c0C9d1c0D9d1c0C9d1c0D9d1c0C9",
     "d1c0D9q000C9d1c0D9d1c0C9d1c0D9d1c0C9d1c0D9d1c0C9d440D9d1c0C9d1c0D9d1c0C9d1c0D9q000C9d1c0",
     "D9d1c0C9d1c0D9d1c0C9d1c0D9d1c0C9d1c0D9d1c0C9d1c0D9d1c0C"],
    "1996 D 3.5.0/7200 C 10.5.0/10800"⟩,
  ⟨"Europe/Zurich",
    "LMT:2048 BMT:1786 CET:3600 CEST:7200",
    ["-1os49kwBlc05jaCohmxdmD7x6o0Casw00D7x6o0Ck2zus0D9d1c0C9d1c0D9d1c0C9d1c0D9d1c0C9d1c0D9q00",
     "0C9d1c0D9d1c0C9d1c0D9d1c0C9d1c0D9d1c0C9d1c0D9d1c0C9d1c0D9d1c0C9d1c0D9q000C9d1c0D9d1c0C9d",
     "1c0D9d1c0C9d1c0D9d1c0C9d1c0D9d1c0C9d1c0D9d1c0C"],
    "1996 D 3.5.0/7200 C 10.5.0/10800"⟩]

end Rota.Zone.Tables
